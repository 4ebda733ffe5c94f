import LiveChat.Foundation.Ledger
import LiveChat.Api.TokenRedemption
import LiveChat.Core.IdleSweep
import LiveChat.Core.SessionRecords

/-!
# The daily token quota at admission

`get_daily_token_usage` adds up the records of the sessions that started on the day, and a
session is recorded when it has ended.  `Accounted` says of every ended session where its
record stands: on its way to the collection, or there, and on the day it ended.
-/

set_option autoImplicit false

namespace LiveChat.Api

open LiveChat.Core
open LiveChat.Core.GeminiRunner (Await Exit Progress RunnerEvent Session)
open LiveChat.Core.SessionManager (Node NodeEvent Record Runner)
open LiveChat.Db
open LiveChat.Foundation
open LiveChat.Foundation.TransitionSystem
open LiveChat.Repositories
open LiveChat.Repositories.SessionRepo (DAY countsToward startOfDay totalTokens)
open LiveChat.Api.Chat (Handshake Socket SocketPhase)

/-! ## Days -/

theorem startOfDay_mono {earlier later : Instant} (le : earlier ≤ later) :
    startOfDay earlier ≤ startOfDay later :=
  Nat.mul_le_mul_right DAY (Nat.div_le_div_right le)

/-- Midnight has no fraction of a millisecond. -/
theorem startOfDay_le_storedDate (utc : Instant) :
    startOfDay utc ≤ ProjectRepo.storedDate utc := by
  have millis : DAY = 1000000 * 86400000 := rfl
  calc startOfDay utc = utc / 1000000 / 86400000 * 86400000 * 1000000 := by
        rw [startOfDay, millis, Nat.mul_comm 1000000, Nat.mul_assoc, Nat.div_div_eq_div_mul,
          Nat.mul_comm 86400000]
    _ ≤ ProjectRepo.storedDate utc := Nat.mul_le_mul_right _ (Nat.div_mul_le_self _ _)

/-! ## The clock of the node -/

theorem clock_step {node next : Node} {event : NodeEvent} (quiet : opensOrTicks event = false)
    (run : node.step event = some next) : next.clock = node.clock := by
  cases event with
  | tick elapsed utc => cases quiet
  | getOrCreate sessionId project apiKeyId => cases quiet
  | runner index event =>
      obtain ⟨runner, after, found, stepped, rfl, _⟩ := Node.own_moved (Node.step_moved run)
      rfl
  | onRunnerDone sessionId runner =>
      simp only [Node.step] at run
      split at run <;> cases run
      rfl
  | _ => exact (Node.works_step rfl (fun _ _ same => by cases same) run).clock

/-! ## The record that a session ends with -/

def usedTokens (session : Session) : Nat :=
  session.state.inputTokens + session.state.outputTokens

/-- What `finally` finds of the session: its start and its counters. -/
structure SameAccount (before after : Session) : Prop where
  startedAt : after.state.startedAt = before.state.startedAt
  inputTokens : after.state.inputTokens = before.state.inputTokens
  outputTokens : after.state.outputTokens = before.state.outputTokens
  sessionRepo : after.sessionRepo = before.sessionRepo

theorem leaving_step {session after : Session} {clock : Clock} {event : RunnerEvent}
    (leaves : session.leavesTry event = true) (run : session.step (clock, event) = some after) :
    ∃ last : Session, after = Session.settle (last.enterFinally clock) ∧
      SameAccount session last := by
  have handled : ∀ before : Session, SameAccount session before → ∀ exit : Exit,
      ∃ last : Session, before.afterClose clock exit = last.enterFinally clock ∧
        SameAccount session last := by
    intro before same exit
    cases exit with
    | normal => exact ⟨before, rfl, same⟩
    | raised exc => exact ⟨before.handleError exc, rfl, same.1, same.2, same.3, same.4⟩
    | cancelled => exact ⟨before.handleCancelled, rfl, same.1, same.2, same.3, same.4⟩
  have refl : SameAccount session session := ⟨rfl, rfl, rfl, rfl⟩
  obtain ⟨progress, resumed, rfl⟩ := Session.step_settles run
  suffices ∃ last : Session, progress = last.enterFinally clock ∧ SameAccount session last by
    obtain ⟨last, rfl, same⟩ := this
    exact ⟨last, rfl, same⟩
  cases event with
  | closed =>
      simp only [Session.resume, RunnerEvent.resumesRunner, if_true, Session.resumeRunner] at resumed
      split at resumed
      · cases resumed
      · split at resumed
        · rename_i exit here
          cases resumed
          exact handled session refl exit
        · cases resumed
  | failed exc =>
      simp only [Session.resume, RunnerEvent.resumesRunner, if_true, Session.resumeRunner,
        Session.afterFailed] at resumed
      simp only [Session.leavesTry] at leaves
      split at resumed
      · cases resumed
      · split at leaves
        · rename_i here
          simp only [here] at resumed
          cases resumed
          exact handled session refl (.raised exc)
        · rename_i here
          simp only [here] at resumed
          cases resumed
          exact handled session refl (.raised exc)
        · cases leaves
  | cancelled =>
      simp only [Session.resume, RunnerEvent.resumesRunner, Bool.false_eq_true, if_false,
        Session.afterCancelled] at resumed
      simp only [Session.leavesTry] at leaves
      split at resumed
      · split at leaves
        · rename_i here
          simp only [here] at resumed
          cases resumed
          exact ⟨_, rfl, rfl, rfl, rfl, rfl⟩
        · rename_i here
          simp only [here] at resumed
          cases resumed
          exact ⟨_, rfl, rfl, rfl, rfl, rfl⟩
        · cases leaves
      · cases resumed
  | _ => cases leaves

theorem closing_eq_some {before after : Session} {doc : SessionDoc} :
    closing before after = some doc ↔
      (∀ other executed, before.await ≠ .recording other executed) ∧
        ∃ executed, after.await = .recording doc executed := by
  unfold closing
  split
  · rename_i other executed here
    exact ⟨fun none => (by cases none), fun both => absurd here (both.1 other executed)⟩
  · rename_i made executed there away
    rw [there]
    simp only [Option.some.injEq, Await.recording.injEq, exists_and_left]
    exact ⟨fun same => ⟨away, same, executed, rfl⟩, fun both => both.2.1⟩
  · rename_i away nowhere
    refine ⟨fun none => (by cases none), fun ⟨_, executed, there⟩ => ?_⟩
    exact absurd there (nowhere doc executed)

/-- The record of a session that ends now: of the tokens it has used, and with the time of
the node. -/
theorem closing_step {session after : Session} {clock : Clock} {event : RunnerEvent}
    {doc : SessionDoc} (quiet : session.Quiet) (wired : session.sessionRepo = true)
    (run : session.step (clock, event) = some after) (ends : closing session after = some doc) :
    session.await.inTry = true ∧ session.leavesTry event = true ∧
      after.await = .recording doc false ∧ doc.startedAt = session.state.startedAt ∧
      doc.endedAt = clock.utc ∧
      totalTokens doc = usedTokens session := by
  obtain ⟨away, executed, there⟩ := closing_eq_some.mp ends
  have both : session.await.inTry = true ∧ session.leavesTry event = true := by
    obtain ⟨progress, resumed, rfl⟩ := Session.step_settles run
    cases Session.resume_moved quiet resumed with
    | left moment inside leaves evolves outbox => exact ⟨inside, leaves⟩
    | inside inside stays after evolves =>
        rw [Session.settle] at there
        rw [there] at after
        cases after
    | around outside surrounds await evolves stopped counters accepted =>
        exact absurd (await.symm.trans there) (away doc executed)
    | neverStarted here moved =>
        rw [moved] at there
        cases there
    | entered here => cases there
    | setupRaised exc here => cases there
    | inserted other here => exact absurd here (away other false)
    | insertReturned other here => exact absurd here (away other true)
    | insertFailed other here => exact absurd here (away other false)
    | interrupted other written here moved => exact absurd here (away other written)
  obtain ⟨last, rfl, same⟩ := leaving_step both.2 run
  rw [Session.settle_enterFinally, if_pos (same.sessionRepo.trans wired)] at there ⊢
  cases there
  exact ⟨both.1, both.2, rfl, same.startedAt, rfl,
    congrArg₂ (· + ·) same.inputTokens same.outputTokens⟩

/-! ## Where the records of ended sessions stand -/

/-- The record whose insert was not executed yet. -/
def pending (session : Session) : Option SessionDoc :=
  match session.await with
  | .recording doc false => some doc
  | _ => none

/-- The record that is lost when `CancelledError` comes before the insert. -/
def abandons (session : Session) : RunnerEvent → Option SessionDoc
  | .cancelled => pending session
  | _ => none

/-- The step of a runner keeps its tokens: it ends its session on the UTC day on which the
session started, its insert finds the id free, and it is not cancelled before the insert
was executed. -/
def KeepsTokens (node : Node) (session : Session) (event : RunnerEvent) : Prop :=
  (session.leavesTry event = true → usedTokens session ≠ 0 →
    startOfDay session.state.startedAt = startOfDay node.clock.utc) ∧
  (∀ doc ∈ Node.inserts session event, totalTokens doc ≠ 0 →
    ∀ record ∈ node.records, record.doc.id ≠ doc.id) ∧
  ∀ doc ∈ abandons session event, totalTokens doc = 0

instance (node : Node) (session : Session) (event : RunnerEvent) :
    Decidable (KeepsTokens node session event) := inferInstanceAs (Decidable (_ ∧ _ ∧ _))

/-- The runner of an ended session still has to insert the record, or has inserted it. -/
def Stands (records : List Record) (session : Session) (record : Record) : Prop :=
  match session.await with
  | .recording doc false => doc = record.doc
  | .recording _ true | .done _ => totalTokens record.doc ≠ 0 → record ∈ records
  | _ => False

structure Accounted (ended : List Record) (node : Node) : Prop where
  once : (ended.map Record.writer).Nodup
  stands : ∀ record ∈ ended, ∃ runner, node.runners[record.writer]? = some runner ∧
    Stands node.records runner.session record
  sameDay : ∀ record ∈ ended, totalTokens record.doc ≠ 0 →
    startOfDay record.doc.startedAt = startOfDay record.doc.endedAt

theorem stands_outside {records : List Record} {session : Session} {record : Record}
    (stands : Stands records session record) :
    session.await.inTry = false ∧ session.await ≠ .created := by
  unfold Stands at stands
  split at stands
  · rename_i here
    rw [here]
    exact ⟨rfl, fun same => by cases same⟩
  · rename_i here
    rw [here]
    exact ⟨rfl, fun same => by cases same⟩
  · rename_i here
    rw [here]
    exact ⟨rfl, fun same => by cases same⟩
  · cases stands

theorem stands_same {records more : List Record} {before after : Session} {record : Record}
    (await : after.await = before.await) (grown : ∀ other ∈ records, other ∈ more)
    (stands : Stands records before record) : Stands more after record := by
  unfold Stands at stands ⊢
  rw [await]
  split at stands
  · exact stands
  · exact fun used => grown record (stands used)
  · exact fun used => grown record (stands used)
  · exact stands

theorem mem_insertOne {records : List Record} (new : Record) {record : Record}
    (member : record ∈ records) : record ∈ SessionManager.insertOne records new := by
  unfold SessionManager.insertOne
  split
  · exact member
  · exact List.mem_append_left _ member

theorem insertOne_free {records : List Record} {new : Record}
    (free : ∀ record ∈ records, record.doc.id ≠ new.doc.id) :
    SessionManager.insertOne records new = records ++ [new] := by
  unfold SessionManager.insertOne
  rw [if_neg]
  simpa using free

theorem advance_grows (node : Node) (index : Nat) (before after : Session) (event : RunnerEvent) :
    ∀ record ∈ node.records, record ∈ (node.advance index before after event).records := by
  intro record member
  simp only [Node.advance]
  split
  · exact member
  · exact mem_insertOne _ member

theorem records_grow {node next : Node} {event : NodeEvent} (moved : Node.Moved node event next) :
    ∀ record ∈ node.records, record ∈ next.records := by
  intro record member
  cases moved with
  | managed manages managed =>
      rw [Node.records_managed managed]
      exact member
  | advanced found run => exact advance_grows _ _ _ _ _ record member
  | _ => exact member

theorem stands_step {node : Node} {index : Nat} {before after : Session} {event : RunnerEvent}
    {doc : SessionDoc} (quiet : before.Quiet) (accepted : event ≠ .insertFailed)
    (keeps : KeepsTokens node before event) (run : before.step (node.clock, event) = some after)
    (stands : Stands node.records before ⟨doc, index⟩) :
    Stands (node.advance index before after event).records after ⟨doc, index⟩ := by
  obtain ⟨outside, entered⟩ := stands_outside stands
  obtain ⟨_, free, kept⟩ := keeps
  obtain ⟨progress, resumed, rfl⟩ := Session.step_settles run
  cases Session.resume_moved quiet resumed with
  | around _ surrounds await evolves stopped counters accepted =>
      exact stands_same await (advance_grows _ _ _ _ _) stands
  | inserted made here =>
      have same : made = doc := by simpa [Stands, here] using stands
      subst same
      intro used
      have inserts : Node.inserts before .insertExecuted = some made := by
        simp [Node.inserts, here]
      have fresh := free made inserts used
      simp only [Node.advance, inserts]
      rw [insertOne_free fresh]
      exact List.mem_append_right _ List.mem_cons_self
  | insertReturned made here =>
      have written : totalTokens doc ≠ 0 → ⟨doc, index⟩ ∈ node.records := by
        simpa [Stands, here] using stands
      exact fun used => advance_grows _ _ _ _ _ _ (written used)
  | insertFailed made here => exact absurd rfl accepted
  | interrupted made executed here moved =>
      subst moved
      cases executed with
      | true =>
          have written : totalTokens doc ≠ 0 → ⟨doc, index⟩ ∈ node.records := by
            simpa [Stands, here] using stands
          exact fun used => advance_grows _ _ _ _ _ _ (written used)
      | false =>
          have same : made = doc := by simpa [Stands, here] using stands
          subst same
          exact fun used => absurd (kept made (by simp [abandons, pending, here])) used
  | entered here => exact absurd here entered
  | setupRaised exc here => exact absurd here entered
  | neverStarted here moved => exact absurd here entered
  | inside inside stays after evolves => cases outside.symm.trans inside
  | left moment inside leaves evolves outbox => cases outside.symm.trans inside

def KeepsTokensIn (node : Node) : NodeEvent → Prop
  | .runner index event => ∀ runner ∈ node.runners[index]?, KeepsTokens node runner.session event
  | _ => True

instance (node : Node) : ∀ event, Decidable (KeepsTokensIn node event)
  | .runner index event => inferInstanceAs
      (Decidable (∀ runner ∈ node.runners[index]?, KeepsTokens node runner.session event))
  | .tick .. | .getOrCreate .. | .onRunnerDone .. | .start | .cleanupWake | .cleanupWait _
  | .cleanupCancelled | .terminate _ | .termination .. | .stop | .stopCleanupDone
  | .stopWait _ => isTrue trivial

theorem endedBy_other {node next : Node} {event : NodeEvent}
    (other : ∀ index stepped, event ≠ .runner index stepped) : endedBy node next event = [] := by
  cases event with
  | runner index stepped => exact absurd rfl (other index stepped)
  | _ => rfl

theorem accounted_kept {ended : List Record} {node next : Node} {event : NodeEvent}
    (quiet : SessionManager.Quiet node) (accepted : ∀ index, event ≠ .runner index .insertFailed)
    (keeps : KeepsTokensIn node event) (moved : Node.Moved node event next)
    (accounted : Accounted ended node) : Accounted ended next := by
  refine ⟨accounted.once, fun record member => ?_, accounted.sameDay⟩
  obtain ⟨before, found, stands⟩ := accounted.stands record member
  obtain ⟨after, found', undisturbed | ⟨stepped, rfl, run⟩⟩ :=
    SessionManager.runner_of_moved moved found
  · exact ⟨after, found', stands_same undisturbed.await (records_grow moved) stands⟩
  · obtain ⟨runner, session, there, run', rfl, found''⟩ := Node.own_moved moved
    cases Option.some.inj (found.symm.trans there)
    cases Option.some.inj (found''.symm.trans found')
    exact ⟨_, found', stands_step (quiet record.writer before found)
      (fun same => accepted record.writer (by rw [same])) (keeps before found) run stands⟩

theorem accounted_moved {ended : List Record} {node next : Node} {event : NodeEvent}
    (quiet : SessionManager.Quiet node) (wired : Node.Wired node)
    (accepted : ∀ index, event ≠ .runner index .insertFailed) (keeps : KeepsTokensIn node event)
    (moved : Node.Moved node event next) (accounted : Accounted ended node) :
    Accounted (ended ++ endedBy node next event) next := by
  have kept := accounted_kept quiet accepted keeps moved accounted
  by_cases own : ∃ index stepped, event = .runner index stepped
  · obtain ⟨index, stepped, rfl⟩ := own
    obtain ⟨runner, after, found, run, rfl, found'⟩ := Node.own_moved moved
    simp only [endedBy, found, found']
    cases ends : closing runner.session after with
    | none => simpa using kept
    | some doc =>
        obtain ⟨inside, leaves, there, started, stamped, used⟩ :=
          closing_step (quiet index runner found) (wired index runner found) run ends
        simp only [Option.map_some, Option.toList_some]
        refine ⟨?_, ?_, ?_⟩
        · -- a runner in its `try` statement has not ended before
          rw [List.map_append]
          refine List.Nodup.append accounted.once (List.nodup_singleton _) ?_
          intro writer member here
          obtain rfl := List.mem_singleton.mp here
          obtain ⟨record, listed, same⟩ := List.mem_map.mp member
          obtain ⟨before, there', stands⟩ := accounted.stands record listed
          rw [same] at there'
          cases Option.some.inj (found.symm.trans there')
          cases (stands_outside stands).1.symm.trans inside
        · intro record member
          rcases List.mem_append.mp member with old | new
          · exact kept.stands record old
          · obtain rfl := List.mem_singleton.mp new
            exact ⟨_, found', by simp [Stands, there]⟩
        · intro record member nonzero
          rcases List.mem_append.mp member with old | new
          · exact kept.sameDay record old nonzero
          · obtain rfl := List.mem_singleton.mp new
            rw [started, stamped]
            exact (keeps runner found).1 leaves (used ▸ nonzero)
  · rw [endedBy_other fun index stepped same => own ⟨index, stepped, same⟩, List.append_nil]
    exact kept

/-! ## Handshakes -/

namespace Service

def measuredTenant (socket : Socket) : Option String :=
  match socket.phase with
  | .measuring _ tenant _ _ => some tenant.id
  | _ => none

def endedOn (tenantId : String) (utc : Instant) (doc : SessionDoc) : Bool :=
  doc.tenantId == tenantId && startOfDay doc.endedAt == startOfDay utc

def endedTokens (service : Service) (tenantId : String) : Nat :=
  Ledger.total (fun record => endedOn tenantId service.node.clock.utc record.doc)
    (fun record => totalTokens record.doc) service.ended

/-- A handshake that `_resolve_project` admits with this step: the sessions that its tenant
has ended on this day are within the quota of the plan. -/
def QuotaHeld (hasher : AuthTokenRepo.PasswordHasher) (service : Service) : ServiceEvent → Prop
  | .socketStep index uuid => ∀ next socket authority resolved,
      service.step hasher (.socketStep index uuid) = some next →
      next.sockets[index]? = some socket → socket.phase = .entering →
      socket.authority = some authority → socket.resolved = some resolved →
      ∀ quota ∈ PlanLimits.dailyTokenQuota resolved.tenantPlan,
        service.endedTokens authority.tenantId < quota
  | _ => True

/-- The step keeps the tokens of the sessions that end, and at a quota query no session of
the tenant that ended on this day still has to insert its record. -/
def TokensKept (service : Service) : ServiceEvent → Prop
  | .node event => KeepsTokensIn service.node event
  | .socketStep index _ => ∀ socket ∈ service.sockets[index]?, ∀ tenantId ∈ measuredTenant socket,
      ∀ runner ∈ service.node.runners, ∀ doc ∈ pending runner.session,
        endedOn tenantId service.node.clock.utc doc = true → totalTokens doc = 0
  | _ => True

instance (service : Service) : ∀ event, Decidable (TokensKept service event)
  | .node event => inferInstanceAs (Decidable (KeepsTokensIn service.node event))
  | .socketStep index _ => inferInstanceAs (Decidable (∀ socket ∈ service.sockets[index]?,
      ∀ tenantId ∈ measuredTenant socket, ∀ runner ∈ service.node.runners,
        ∀ doc ∈ pending runner.session,
          endedOn tenantId service.node.clock.utc doc = true → totalTokens doc = 0))
  | .tick _ | .rest _ | .requestToken .. | .tokenStep .. | .accept _ => isTrue trivial

/-- What the variables of a handshake at its quota query say. -/
def Measures (service : Service) (socket : Socket) : Prop :=
  ∀ config tenant quota start, socket.phase = .measuring config tenant quota start →
    ∃ authority, socket.authority = some authority ∧ tenant.id = authority.tenantId ∧
      PlanLimits.dailyTokenQuota tenant.plan = some quota ∧
      start ≤ startOfDay service.node.clock.utc

structure Booked (service : Service) : Prop where
  sound : service.rest.Sound
  quiet : SessionManager.Quiet service.node
  wired : Node.Wired service.node
  accounted : Accounted service.ended service.node
  measures : ∀ socket ∈ service.sockets, Measures service socket

variable {hasher : AuthTokenRepo.PasswordHasher}

theorem booked_initial (now : Instant) (clock : Clock) : Booked (initial now clock) where
  sound := Rest.sound_initial now
  quiet := SessionManager.quiet_initial clock
  wired := fun index runner found => by simp [initial, Node.initial] at found
  accounted := ⟨List.nodup_nil, fun _ member => absurd member List.not_mem_nil,
    fun _ member => absurd member List.not_mem_nil⟩
  measures := fun _ member => absurd member List.not_mem_nil

/-! ## Steps -/

theorem node_moved {service next : Service} {event : ServiceEvent}
    (moved : Moved hasher service event next) :
    (next.node = service.node ∧ next.ended = service.ended) ∨
      ∃ nodeEvent, Node.Moved service.node nodeEvent next.node ∧
        next.ended = service.ended ++ endedBy service.node next.node nodeEvent ∧
        (event = .node nodeEvent ∨ ∀ index stepped, nodeEvent ≠ .runner index stepped) := by
  cases moved with
  | ticked restMoved later nodeRun =>
      exact Or.inr ⟨_, Node.step_moved nodeRun, (List.append_nil _).symm,
        Or.inr fun _ _ same => by cases same⟩
  | noded quiet run => exact Or.inr ⟨_, Node.step_moved run, rfl, Or.inl rfl⟩
  | entered found returned run =>
      exact Or.inr ⟨_, Node.step_moved run, (List.append_nil _).symm,
        Or.inr fun _ _ same => by cases same⟩
  | _ => exact Or.inl ⟨rfl, rfl⟩

theorem utc_moved {service next : Service} {event : ServiceEvent}
    (moved : Moved hasher service event next) :
    service.node.clock.utc ≤ next.node.clock.utc := by
  cases moved with
  | ticked restMoved later nodeRun =>
      cases nodeRun
      exact Nat.le_add_right _ _
  | noded quiet run => exact Nat.le_of_eq (congrArg Clock.utc (clock_step quiet run)).symm
  | entered found returned run =>
      cases run
      simp only [Node.getOrCreate]
      split
      · exact Nat.le_refl _
      · split <;> exact Nat.le_refl _
  | _ => exact Nat.le_refl _

theorem measures_later {service next : Service} {socket : Socket}
    (later : service.node.clock.utc ≤ next.node.clock.utc) (measures : Measures service socket) :
    Measures next socket := by
  intro config tenant quota start phase
  obtain ⟨authority, authorized, own, limited, begun⟩ := measures config tenant quota start phase
  exact ⟨authority, authorized, own, limited, Nat.le_trans begun (startOfDay_mono later)⟩

theorem measures_change {service next : Service} {socket after : Socket} (sound : service.rest.Sound)
    (change : SocketChange hasher service next socket after) : Measures service after := by
  intro config tenant quota start phase
  cases change with
  | turned turn =>
      cases turn with
      | measuring authorized before stored limited =>
          cases phase
          exact ⟨_, authorized, (sound.tenants _ _ stored).1, limited, Nat.le_refl _⟩
      | _ => cases phase
  | redeemed before live => cases phase
  | limited authorized waits =>
      rcases waits with ⟨window, count, rfl⟩ | ⟨close, rfl⟩ <;> cases phase
  | asked authorized asked => cases phase
  | entered returned sessionId => cases phase

theorem measures_accept (service : Service) (handshake : Handshake) :
    Measures service (Chat.accept handshake) := by
  intro config tenant quota start phase
  simp only [Chat.accept] at phase
  split at phase <;> cases phase

theorem booked_moved {service next : Service} {event : ServiceEvent} (booked : Booked service)
    (accepted : ∀ index, event ≠ .node (.runner index .insertFailed))
    (kept : TokensKept service event) (moved : Moved hasher service event next) :
    Booked next where
  sound := sound_moved moved booked.sound
  quiet := by
    rcases node_moved moved with ⟨same, _⟩ | ⟨nodeEvent, nodeMoved, _⟩
    · rw [same]
      exact booked.quiet
    · exact SessionManager.quiet_moved booked.quiet nodeMoved
  wired := by
    rcases node_moved moved with ⟨same, _⟩ | ⟨nodeEvent, nodeMoved, _⟩
    · rw [same]
      exact booked.wired
    · exact Node.wired_moved booked.quiet booked.wired nodeMoved
  accounted := by
    rcases node_moved moved with ⟨same, ended⟩ | ⟨nodeEvent, nodeMoved, ended, rfl | other⟩
    · rw [same, ended]
      exact booked.accounted
    · rw [ended]
      exact accounted_moved booked.quiet booked.wired
        (fun index same => accepted index (by rw [same])) kept nodeMoved booked.accounted
    · have keeps : KeepsTokensIn service.node nodeEvent := by
        cases nodeEvent with
        | runner index stepped => exact absurd rfl (other index stepped)
        | _ => trivial
      rw [ended]
      exact accounted_moved booked.quiet booked.wired (fun index same => other index _ same)
        keeps nodeMoved booked.accounted
  measures := by
    intro socket member
    have later := utc_moved moved
    obtain ⟨place, found⟩ := List.mem_iff_getElem?.mp member
    rcases (sockets_moved moved).source found with old | ⟨_, handshake, rfl⟩ |
      ⟨before, there, change⟩
    · exact measures_later later (booked.measures socket (List.mem_of_getElem? old))
    · exact measures_accept next handshake
    · exact measures_later later (measures_change booked.sound change)

/-! ## The quota query -/

theorem usage_eq_total (service : Service) (tenantId : String) (start : Instant) :
    service.usage tenantId start =
      Ledger.total (fun record => countsToward tenantId start record.doc)
        (fun record => totalTokens record.doc) service.node.records := by
  simp only [usage, SessionRepo.getDailyTokenUsage, Ledger.total, List.filter_map, List.map_map]
  rfl

/-- The query misses no session that has ended on this day. -/
theorem endedTokens_le_usage {service : Service} (booked : Booked service) {tenantId : String}
    {start : Instant} (begun : start ≤ startOfDay service.node.clock.utc)
    (clear : ∀ runner ∈ service.node.runners, ∀ doc ∈ pending runner.session,
      endedOn tenantId service.node.clock.utc doc = true → totalTokens doc = 0) :
    service.endedTokens tenantId ≤ service.usage tenantId start := by
  rw [usage_eq_total]
  refine Ledger.total_le_of_posted (List.Nodup.of_map _ booked.accounted.once) ?_
  intro record member today used
  obtain ⟨runner, found, stands⟩ := booked.accounted.stands record member
  have listed : record ∈ service.node.records := by
    unfold Stands at stands
    split at stands
    · rename_i doc here
      subst stands
      have waits : pending runner.session = some record.doc := by simp [pending, here]
      exact absurd (clear runner (List.mem_of_getElem? found) record.doc waits today) used
    · exact stands used
    · exact stands used
    · cases stands
  have day := booked.accounted.sameDay record member used
  simp only [endedOn, Bool.and_eq_true, beq_iff_eq] at today
  have counted : start ≤ ProjectRepo.storedDate record.doc.startedAt :=
    calc start ≤ startOfDay service.node.clock.utc := begun
      _ = startOfDay record.doc.startedAt := by rw [day, today.2]
      _ ≤ ProjectRepo.storedDate record.doc.startedAt := startOfDay_le_storedDate _
  exact ⟨listed, by simp [countsToward, today.1, counted]⟩

/-- One step: who is admitted found the usage of the day below the quota. -/
theorem quotaHeld_of_booked {service : Service} {event : ServiceEvent} (booked : Booked service)
    (kept : TokensKept service event) : QuotaHeld hasher service event := by
  cases event with
  | socketStep index uuid =>
      intro next socket authority resolved run found' phase authorized' returned quota limited
      have placed : ∀ {sockets : List Socket} {after : Socket},
          (sockets.set index after)[index]? = some socket → socket = after := by
        intro sockets after there
        rcases Places.set_source there with ⟨far, _⟩ | ⟨_, same⟩
        · exact absurd rfl far
        · exact same
      cases step_moved run with
      | @socketTurned _ _ before after found turn =>
          obtain rfl := placed found'
          cases turn with
          | unlimited authorized waiting stored free =>
              cases returned
              cases free.symm.trans limited
          | @within asked config tenant most start authorized waiting room =>
              cases returned
              cases authorized.symm.trans authorized'
              obtain ⟨_, same, own, paid, begun⟩ := booked.measures before
                (List.mem_of_getElem? found) config tenant most start waiting
              cases authorized.symm.trans same
              cases paid.symm.trans limited
              have clear := kept before found tenant.id (by simp [measuredTenant, waiting])
              rw [← own]
              exact Nat.lt_of_le_of_lt (endedTokens_le_usage booked begun clear) room
          | _ => cases phase
      | redeemed found waiting live taken =>
          obtain rfl := placed found'
          cases phase
      | limited found authorized waits same =>
          obtain rfl := placed found'
          rcases waits with ⟨window, count, rfl⟩ | ⟨close, rfl⟩ <;> cases phase
      | asked found authorized same =>
          obtain rfl := placed found'
          cases phase
      | entered found returned run =>
          obtain rfl := placed found'
          cases phase
  | _ => trivial

/-- In a run that keeps the tokens of the sessions, nobody is admitted past the quota. -/
theorem quotaHeld_of_tokensKept (hasher : AuthTokenRepo.PasswordHasher) (now : Instant)
    (clock : Clock) (events : List ServiceEvent)
    (accepting : ∀ index, ServiceEvent.node (.runner index .insertFailed) ∉ events)
    (kept : Along (step hasher) TokensKept (initial now clock) events) :
    Along (step hasher) (QuotaHeld hasher) (initial now clock) events := by
  have allowed : ∀ event ∈ events, ∀ index, event ≠ .node (.runner index .insertFailed) := by
    rintro event member index rfl
    exact accepting index member
  refine along_of_along Booked ?_ (booked_initial now clock) (kept.with_allowed allowed)
  rintro service event next booked ⟨met, accepted⟩ run
  exact ⟨quotaHeld_of_booked booked met, booked_moved booked accepted met (step_moved run)⟩

/-- A browser of tenant `t` opens a session, uses so many tokens, and so much later the
session ends and is recorded. -/
def spendTokens (tokens elapsed : Nat) : List ServiceEvent :=
  [.accept { token := some "token", sessionId := some "s" }, .socketStep 0 "", .socketStep 0 "",
    .socketStep 0 "", .rest (.repo (.redisGet 1)), .socketStep 0 "", .socketStep 0 "",
    .socketStep 0 "", .socketStep 0 "",
    .node (.runner 0 (.start none)), .node (.runner 0 .connected),
    .node (.runner 0 (.putInbox (.text "hello"))), .node (.runner 0 .frame),
    .node (.runner 0 .sent), .node (.runner 0 (.consume (.response
      { usageMetadata := some { promptTokenCount := some tokens }
        serverContent := some { turnComplete := true } }))),
    .tick elapsed, .node (.runner 0 (.putInbox .stop)), .node (.runner 0 .frame),
    .node (.runner 0 .closed), .node (.runner 0 .insertExecuted),
    .node (.runner 0 .insertReturned)]

def nextClient : List ServiceEvent :=
  [.accept { apiKey := some "sk_live_body" }, .socketStep 1 "", .socketStep 1 "",
    .socketStep 1 "", .socketStep 1 "", .rest (.repo (.redisGet 2)), .socketStep 1 "",
    .socketStep 1 "", .socketStep 1 ""]

theorem quotaHeld_sameDay :
    Along (step AuthTokenRepo.plainHasher) (QuotaHeld AuthTokenRepo.plainHasher)
      (initial 0 ⟨0, 0⟩) (mintToken ++ spendTokens 9000 0 ++ nextClient) :=
  quotaHeld_of_tokensKept AuthTokenRepo.plainHasher 0 ⟨0, 0⟩ _
    (by simp [mintToken, spendTokens, nextClient]) (by decide)

/-- A session that ends a second after midnight used up the quota of the new day, and the
next client is admitted: the query looks for sessions that started on that day. -/
theorem quotaHeld_fails :
    ¬ ∀ (hasher : AuthTokenRepo.PasswordHasher) (now : Instant) (clock : Clock)
      (events : List ServiceEvent),
      (∀ index, ServiceEvent.node (.runner index .insertFailed) ∉ events) →
      Along (step hasher) (QuotaHeld hasher) (initial now clock) events := by
  intro held
  let front := mintToken ++ spendTokens 10000 (2 * SECOND) ++ nextClient.dropLast
  have used : (exec (step AuthTokenRepo.plainHasher) (initial 0 ⟨0, DAY - SECOND⟩) front).map
      (fun service => service.endedTokens "t") = some 10000 := by decide
  have admitted : (exec (step AuthTokenRepo.plainHasher) (initial 0 ⟨0, DAY - SECOND⟩)
      (front ++ [.socketStep 1 ""])).map (fun service => (service.sockets[1]?).map fun socket =>
        (decide (socket.phase = .entering), socket.authority.map Chat.Authority.tenantId,
          socket.resolved.map Chat.Resolved.tenantPlan)) =
      some (some (true, some "t", some .free)) := by decide
  obtain ⟨service, run, total⟩ := Option.map_eq_some_iff.mp used
  obtain ⟨next, whole, look⟩ := Option.map_eq_some_iff.mp admitted
  obtain ⟨socket, found, seen⟩ := Option.map_eq_some_iff.mp look
  obtain ⟨entering, others⟩ := Prod.mk.inj seen
  obtain ⟨owner, paid⟩ := Prod.mk.inj others
  obtain ⟨authority, authorized, own⟩ := Option.map_eq_some_iff.mp owner
  obtain ⟨resolved, returned, plan⟩ := Option.map_eq_some_iff.mp paid
  rw [exec_append, run] at whole
  obtain ⟨_, stepped, rest⟩ := exec_cons_some whole
  cases Option.some.inj rest
  have along := held AuthTokenRepo.plainHasher 0 ⟨0, DAY - SECOND⟩ (front ++ [.socketStep 1 ""])
    (by simp [front, mintToken, spendTokens, nextClient])
  have within := along.after run stepped next socket authority resolved stepped found
    (of_decide_eq_true entering) authorized returned 10000 (by rw [plan]; rfl)
  rw [own, total] at within
  exact absurd within (by decide)

end Service

end LiveChat.Api
