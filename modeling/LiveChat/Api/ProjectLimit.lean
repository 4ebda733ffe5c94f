import LiveChat.Foundation.Tables
import LiveChat.Api.RestSteps

/-!
# The project limit of a plan

`create_project` counts the tenant's documents in one command and inserts a new one in a
later command; `delete_project` clears a flag of the document and leaves it in the listing.
The first theorem is about the calls between the two commands, the second about the
documents that are counted.
-/

set_option autoImplicit false

namespace LiveChat.Api

open LiveChat.Core
open LiveChat.Core.PlanLimits
open LiveChat.Foundation
open LiveChat.Foundation.Tables (rows)
open LiveChat.Foundation.TransitionSystem
open LiveChat.Repositories
open LiveChat.Repositories.ProjectRepo (RepoEvent Write)
open LiveChat.Api.Projects

def RestPhase.inserts : RestPhase → Bool
  | .writing (.insertProject _ _) => true
  | _ => false

def RestRequest.creates : RestRequest → Bool
  | .createProject _ => true
  | _ => false

/-- A call of `create_project` that the count lets through. -/
def RestCall.enters (store : ProjectRepo.Store) (call : RestCall) : Bool :=
  call.request.creates &&
    isWithinProjectLimit call.tenant.plan (store.listForTenant call.tenant.id 1000).length

namespace Rest

/-- All documents of the tenant, the deleted ones included. -/
def storedProjects (rest : Rest) (tenantId : String) : Nat :=
  (rows rest.repo.store.projects).countP fun doc => doc.tenantId == tenantId

def activeProjects (rest : Rest) (tenantId : String) : Nat :=
  (rows rest.repo.store.projects).countP fun doc => doc.tenantId == tenantId && doc.isActive

def waitingCreates (rest : Rest) (tenantId : String) : Nat :=
  rest.calls.countP fun call => call.tenant.id == tenantId && call.phase.inserts

/-- The projects that the tenant has, or is going to have without another check. -/
def promised (rest : Rest) (tenantId : String) : Nat :=
  rest.activeProjects tenantId + rest.waitingCreates tenantId

/-- A creation is let through while no other one of the tenant waits to insert, or while
there is room for those as well. -/
def LeavesRoom (tenantId : String) (limit : Nat) (rest : Rest) : RestEvent → Prop
  | .read index => ∀ call ∈ rest.calls[index]?, call.tenant.id = tenantId →
      call.enters rest.repo.store = true →
        rest.waitingCreates tenantId = 0 ∨ rest.promised tenantId < limit
  | _ => True

instance (tenantId : String) (limit : Nat) (rest : Rest) :
    (event : RestEvent) → Decidable (LeavesRoom tenantId limit rest event)
  | .read index => inferInstanceAs (Decidable (∀ call ∈ rest.calls[index]?, _ → _ → _ ∨ _))
  | .register .. | .changeTenant .. | .authenticate .. | .write .. | .repo _ => isTrue trivial

/-! ## Counting documents -/

theorem listForTenant_length (store : ProjectRepo.Store) (tenantId : String) (limit : Nat) :
    (store.listForTenant tenantId limit).length =
      min limit ((rows store.projects).countP fun doc => doc.tenantId == tenantId) := by
  simp only [ProjectRepo.Store.listForTenant, List.length_take, List.countP_eq_length_filter]
  rfl

/-- What the check of `create_project` compares with the limit. -/
theorem isWithinProjectLimit_listing (rest : Rest) (plan : Plan) (tenantId : String) :
    isWithinProjectLimit plan (rest.repo.store.listForTenant tenantId 1000).length =
      isWithinProjectLimit plan (rest.storedProjects tenantId) := by
  rw [listForTenant_length, isWithinProjectLimit_min]
  rfl

theorem activeProjects_le (rest : Rest) (tenantId : String) :
    rest.activeProjects tenantId ≤ rest.storedProjects tenantId := by
  apply List.countP_mono_left
  intro doc _ counted
  exact (Bool.and_eq_true_iff.mp counted).1

/-- An `update_one` that makes no document count which did not count before. -/
theorem countP_updateOne {state next : ProjectRepo.State} {projectId tenantId : String}
    {write : Write} {updatedAt : Instant} {counts : ProjectDoc → Bool}
    (kept : ∀ doc, counts (write.fields.set updatedAt doc) = true → counts doc = true)
    (run : state.step (.updateOne projectId tenantId write updatedAt) = some next) :
    (rows next.store.projects).countP counts ≤ (rows state.store.projects).countP counts := by
  cases ProjectRepo.State.step_moved run with
  | unmodified => exact Nat.le_refl _
  | wrote changed =>
      obtain ⟨before, stored, _, rfl⟩ := ProjectRepo.State.modified_some changed
      have balance := Tables.countP_insert_change stored (write.fields.set updatedAt before) counts
      simp only [ProjectRepo.State.recordWrite, ProjectRepo.State.put]
      by_cases counted : counts (write.fields.set updatedAt before) = true
      · rw [kept before counted, counted] at balance
        omega
      · rw [if_neg counted] at balance
        omega

end Rest

theorem Computes.isActive {store : ProjectRepo.Store} {tenant : TenantDoc} {request : RestRequest}
    {projectId : String} {basis : ProjectDoc} {write : Write} {updatedAt : Instant}
    (computes : Computes store tenant request (.updateProject projectId basis write updatedAt)) :
    (request = .deleteProject projectId ∧ write = .softDelete) ∨
      (write.fields.isActive = none ∧ ∀ other, request ≠ .deleteProject other) := by
  cases computes with
  | edit read accepted =>
      refine Or.inr ⟨(Edit.bounded_fields accepted).isActive, ?_⟩
      intro other same
      cases same
  | deleteProject read => exact Or.inl ⟨rfl, rfl⟩
  | tool read ran =>
      refine Or.inr ⟨rfl, ?_⟩
      intro other same
      cases same

namespace Rest

variable {hasher : AuthTokenRepo.PasswordHasher}

theorem waitingCreates_setCall {rest : Rest} {index : Nat} {call : RestCall}
    (found : rest.calls[index]? = some call) (phase : RestPhase) (tenantId : String) :
    (rest.setCall index phase).waitingCreates tenantId +
        (if call.tenant.id == tenantId && call.phase.inserts then 1 else 0) =
      rest.waitingCreates tenantId +
        if call.tenant.id == tenantId && phase.inserts then 1 else 0 :=
  Places.countP_modify found (fun call => { call with phase := phase })
    fun call => call.tenant.id == tenantId && call.phase.inserts

theorem waitingCreates_le {rest : Rest} {index : Nat} {phase : RestPhase} {call : RestCall}
    (found : rest.calls[index]? = some call) (quiet : phase.inserts = false)
    (tenantId : String) :
    (rest.setCall index phase).waitingCreates tenantId ≤ rest.waitingCreates tenantId := by
  have balance := waitingCreates_setCall found phase tenantId
  rw [quiet, Bool.and_false, if_neg Bool.false_ne_true] at balance
  omega

theorem activeProjects_inserted {rest : Rest} {repo : ProjectRepo.State} {doc : ProjectDoc}
    (active : doc.isActive = true) (run : rest.repo.step (.create doc) = some repo)
    (tenantId : String) :
    (rest.withRepo repo).activeProjects tenantId =
      rest.activeProjects tenantId + if doc.tenantId == tenantId then 1 else 0 := by
  cases ProjectRepo.State.step_moved run with
  | created free =>
      have balance := Tables.countP_insert_new free doc fun doc =>
        doc.tenantId == tenantId && doc.isActive
      simp only [active, Bool.and_true] at balance
      exact balance

theorem activeProjects_updated {rest : Rest} {repo : ProjectRepo.State}
    {projectId owner : String} {write : Write} {updatedAt : Instant}
    (lowers : ∀ flag ∈ write.fields.isActive, flag = false)
    (run : rest.repo.step (.updateOne projectId owner write updatedAt) = some repo)
    (tenantId : String) :
    (rest.withRepo repo).activeProjects tenantId ≤ rest.activeProjects tenantId := by
  apply countP_updateOne ?_ run
  intro doc counted
  obtain ⟨own, active⟩ := Bool.and_eq_true_iff.mp counted
  refine Bool.and_eq_true_iff.mpr ⟨own, ?_⟩
  simp only [ProjectRepo.ProjectFields.set] at active
  cases given : write.fields.isActive with
  | none => simpa [given] using active
  | some flag =>
      rw [given, lowers flag given] at active
      cases active

/-! ## What a step promises -/

theorem enters_of_check {rest : Rest} {call : RestCall} {pending : Pending}
    (accepted : call.request.check rest.repo.store call.tenant = .ok pending)
    (waits : (RestPhase.writing pending).inserts = true) :
    call.enters rest.repo.store = true := by
  obtain ⟨tenant, request, phase⟩ := call
  cases check_computes accepted with
  | createProject room => exact room
  | _ => cases waits

/-- The promised projects of the tenant grow in one kind of step only, and then by one. -/
theorem promised_moved {rest next : Rest} {event : RestEvent} (sound : Sound rest)
    (moved : Moved hasher rest event next) (tenantId : String) :
    next.promised tenantId ≤ rest.promised tenantId ∨
      ∃ index call, event = .read index ∧ rest.calls[index]? = some call ∧
        call.tenant.id = tenantId ∧ call.enters rest.repo.store = true ∧
        next.promised tenantId = rest.promised tenantId + 1 := by
  unfold promised
  cases moved with
  | refused => exact Or.inl (Nat.le_refl _)
  | changedTenants identified => exact Or.inl (Nat.le_refl _)
  | authenticated found active =>
      left
      apply Nat.add_le_add_left
      simp [waitingCreates, RestPhase.inserts]
  | @checked index call phase found reading answer =>
      have active : (rest.setCall index phase).activeProjects tenantId =
        rest.activeProjects tenantId := rfl
      have balance := waitingCreates_setCall found phase tenantId
      have idle : call.phase.inserts = false := by
        rw [reading]
        rfl
      rw [idle, Bool.and_false, if_neg Bool.false_ne_true] at balance
      by_cases waits : call.tenant.id = tenantId ∧ phase.inserts = true
      · right
        rcases answer with ⟨refusal, rfl⟩ | ⟨pending, rfl, accepted⟩
        · cases waits.2
        · refine ⟨index, call, rfl, found, waits.1, enters_of_check accepted waits.2, ?_⟩
          rw [if_pos (Bool.and_eq_true_iff.mpr ⟨beq_iff_eq.mpr waits.1, waits.2⟩)] at balance
          omega
      · left
        rw [if_neg fun both => waits ((Bool.and_eq_true_iff.mp both).imp_left beq_iff_eq.mp)]
          at balance
        omega
  | @insertedProject index call random body now repo found writing run =>
      left
      have grown : ((rest.withRepo repo).setCall index .written).activeProjects tenantId =
          rest.activeProjects tenantId + if call.tenant.id == tenantId then 1 else 0 :=
        activeProjects_inserted rfl run tenantId
      have balance : ((rest.withRepo repo).setCall index .written).waitingCreates tenantId +
          (if call.tenant.id == tenantId then 1 else 0) = rest.waitingCreates tenantId := by
        have here : (rest.withRepo repo).calls[index]? = some call := found
        have moved := waitingCreates_setCall here .written tenantId
        rw [writing] at moved
        simp only [RestPhase.inserts, Bool.and_true, Bool.and_false, if_neg Bool.false_ne_true]
          at moved
        exact moved
      omega
  | @updatedProject index call random projectId basis write updatedAt repo found writing run =>
      left
      obtain ⟨store, accepted⟩ := sound.checked call (List.mem_of_getElem? found) _ writing
      have lowers : ∀ flag ∈ write.fields.isActive, flag = false := by
        intro flag given
        rcases (check_computes accepted).isActive with ⟨_, rfl⟩ | ⟨kept, _⟩
        · exact (Option.some.inj given).symm
        · cases kept.symm.trans given
      have active := activeProjects_updated lowers run tenantId
      have here : (rest.withRepo repo).calls[index]? = some call := found
      have quiet : RestPhase.written.inserts = false := rfl
      exact Nat.add_le_add active (waitingCreates_le here quiet tenantId)
  | insertedKey found writing fresh =>
      left
      exact Nat.add_le_add_left (waitingCreates_le found rfl tenantId) _
  | revokedKey found writing answer =>
      left
      refine Nat.add_le_add_left (waitingCreates_le found ?_ tenantId) _
      rw [answer]
      split <;> rfl
  | @stored _ repo quiet run =>
      left
      have same : (rest.withRepo repo).activeProjects tenantId = rest.activeProjects tenantId := by
        simp only [activeProjects, withRepo, projects_quiet quiet run]
      exact Nat.le_of_eq (congrArg (· + rest.waitingCreates tenantId) same)

/-! ## Overlapping creations -/

/-- Creations that leave each other room never exceed the limit, whatever is deleted. -/
theorem activeProjects_le_of_leavesRoom (hasher : AuthTokenRepo.PasswordHasher)
    (tenantId : String) (plan : Plan) (limit : Nat) (paid : maxProjects plan = some limit)
    (now : Instant) (events : List RestEvent)
    (fixed : Along (step hasher) (OnPlan tenantId plan) (initial now) events)
    (room : Along (step hasher) (LeavesRoom tenantId limit) (initial now) events) :
    Always (step hasher) (fun rest => rest.activeProjects tenantId ≤ limit) (initial now)
      events := by
  have always : Always (step hasher) (fun rest => Sound rest ∧ Subscribed tenantId plan rest ∧
      rest.promised tenantId ≤ limit) (initial now) events := by
    refine always_of_along _ ?_ ⟨sound_initial now, subscribed_initial tenantId plan now,
      Nat.zero_le limit⟩ (fixed.and room)
    rintro rest event next ⟨sound, subscribed, within⟩ ⟨onPlan, leaves⟩ run
    have moved := step_moved run
    refine ⟨sound_moved sound moved, subscribed_moved sound subscribed onPlan moved, ?_⟩
    rcases promised_moved sound moved tenantId with
      fewer | ⟨index, call, rfl, found, own, enters, grown⟩
    · omega
    · rcases leaves call found own enters with alone | fits
      · -- no other creation waits, so the listing has counted every promised project
        have counted : isWithinProjectLimit plan (rest.storedProjects tenantId) = true := by
          rw [← isWithinProjectLimit_listing, ← own,
            ← subscribed call (List.mem_of_getElem? found) own]
          exact (Bool.and_eq_true_iff.mp enters).2
        have below : rest.storedProjects tenantId < limit := by
          simpa [isWithinProjectLimit, isWithin, paid] using counted
        have active := activeProjects_le rest tenantId
        simp only [promised] at grown ⊢
        omega
      · omega
  exact always.mono fun rest held => Nat.le_trans (Nat.le_add_right _ _) held.2.2

def twoCreations : List RestEvent :=
  [.register "t" "Tenant" "t@example.com", .authenticate "t" (.createProject sampleProject),
    .authenticate "t" (.createProject sampleProject)]

theorem activeProjects_inTurn : Always (step AuthTokenRepo.plainHasher)
    (fun rest => rest.activeProjects "t" ≤ 1) (initial 0)
    (twoCreations ++ [.read 0, .write 0 (sampleRandom "p"), .read 1]) :=
  activeProjects_le_of_leavesRoom AuthTokenRepo.plainHasher "t" .free 1 rfl 0 _ (by decide)
    (by decide)

/-- Both requests count before one of them inserts. -/
theorem activeProjects_exceed :
    ¬ ∀ (hasher : AuthTokenRepo.PasswordHasher) (tenantId : String) (plan : Plan) (limit : Nat),
      maxProjects plan = some limit → ∀ (now : Instant) (events : List RestEvent),
      Along (step hasher) (OnPlan tenantId plan) (initial now) events →
      Always (step hasher) (fun rest => rest.activeProjects tenantId ≤ limit) (initial now)
        events := by
  intro always
  let events := twoCreations ++
    [.read 0, .read 1, .write 0 (sampleRandom "p"), .write 1 (sampleRandom "q")]
  have two : (exec (step AuthTokenRepo.plainHasher) (initial 0) events).map
      (activeProjects · "t") = some 2 := by decide
  obtain ⟨final, run, count⟩ := Option.map_eq_some_iff.mp two
  have within := (always AuthTokenRepo.plainHasher "t" .free 1 rfl 0 events (by decide)).last run
  rw [count] at within
  exact absurd within (by decide)

end Rest

/-! ## Slots of deleted projects -/

/-- The project whose deletion the call has completed. -/
def RestCall.deleted (tenantId : String) (call : RestCall) : Option String :=
  match call.phase, call.request with
  | .written, .deleteProject projectId =>
      if call.tenant.id = tenantId then some projectId else none
  | _, _ => none

namespace Rest

def deletedIds (rest : Rest) (tenantId : String) : List String :=
  rest.calls.filterMap (RestCall.deleted tenantId)

/-- The tenant's projects that were created and not yet deleted. -/
def liveProjects (rest : Rest) (tenantId : String) : Nat :=
  (rows rest.repo.store.projects).countP fun doc =>
    doc.tenantId == tenantId && !(rest.deletedIds tenantId).contains doc.id

/-- A creation is accepted exactly when the tenant's live projects are below the limit. -/
def AdmitsByLive (tenantId : String) (plan : Plan) (rest : Rest) : RestEvent → Prop
  | .read index => ∀ call ∈ rest.calls[index]?, call.tenant.id = tenantId →
      call.request.creates = true →
        ((call.request.check rest.repo.store call.tenant).isOk = true ↔
          ∀ limit ∈ maxProjects plan, rest.liveProjects tenantId < limit)
  | _ => True

/-- No creation comes while only the slots of deleted projects are free. -/
def NeedsNoDeletedSlot (tenantId : String) (plan : Plan) (rest : Rest) : RestEvent → Prop
  | .read index => ∀ call ∈ rest.calls[index]?, call.tenant.id = tenantId →
      call.request.creates = true → ∀ limit ∈ maxProjects plan,
        ¬ (rest.liveProjects tenantId < limit ∧ limit ≤ rest.storedProjects tenantId)
  | _ => True

/-- A request of the tenant arrives when the earlier ones are answered. -/
def InTurn (tenantId : String) (rest : Rest) : RestEvent → Prop
  | .authenticate tenant _ => tenant = tenantId → ∀ call ∈ rest.calls,
      call.tenant.id = tenantId → call.phase.isAnswered = true
  | _ => True

instance (tenantId : String) (plan : Plan) (rest : Rest) :
    (event : RestEvent) → Decidable (AdmitsByLive tenantId plan rest event)
  | .read index => inferInstanceAs (Decidable (∀ call ∈ rest.calls[index]?, _ → _ → (_ ↔ _)))
  | .register .. | .changeTenant .. | .authenticate .. | .write .. | .repo _ => isTrue trivial

instance (tenantId : String) (plan : Plan) (rest : Rest) :
    (event : RestEvent) → Decidable (NeedsNoDeletedSlot tenantId plan rest event)
  | .read index => inferInstanceAs (Decidable
      (∀ call ∈ rest.calls[index]?, _ → _ → ∀ limit ∈ maxProjects plan, ¬ _))
  | .register .. | .changeTenant .. | .authenticate .. | .write .. | .repo _ => isTrue trivial

instance (tenantId : String) (rest : Rest) :
    (event : RestEvent) → Decidable (InTurn tenantId rest event)
  | .authenticate .. => inferInstanceAs (Decidable (_ → ∀ call ∈ rest.calls, _ → _))
  | .register .. | .changeTenant .. | .read _ | .write .. | .repo _ => isTrue trivial

theorem liveProjects_le (rest : Rest) (tenantId : String) :
    rest.liveProjects tenantId ≤ rest.storedProjects tenantId := by
  apply List.countP_mono_left
  intro doc _ counted
  exact (Bool.and_eq_true_iff.mp counted).1

theorem isWithinProjectLimit_iff (plan : Plan) (count : Nat) :
    isWithinProjectLimit plan count = true ↔ ∀ limit ∈ maxProjects plan, count < limit := by
  unfold isWithinProjectLimit isWithin
  cases maxProjects plan with
  | none => simp
  | some limit => simp

/-- The count of `create_project` is of all documents of the tenant. -/
theorem check_creates (rest : Rest) {call : RestCall} (creates : call.request.creates = true) :
    (call.request.check rest.repo.store call.tenant).isOk = true ↔
      ∀ limit ∈ maxProjects call.tenant.plan, rest.storedProjects call.tenant.id < limit := by
  obtain ⟨tenant, request, phase⟩ := call
  cases request with
  | createProject body =>
      rw [← isWithinProjectLimit_iff, ← isWithinProjectLimit_listing]
      simp only [RestRequest.check, admitProject]
      split
      · rename_i refusal refused
        split at refused
        · cases refused
        · rename_i reached
          exact ⟨fun ok => absurd ok Bool.false_ne_true, fun within => absurd within reached⟩
      · rename_i admitted
        exact ⟨fun _ => admitProject_ok.mp admitted, fun _ => rfl⟩
  | _ => cases creates

theorem admitsByLive_iff_step {rest : Rest} {tenantId : String} {plan : Plan}
    (subscribed : Subscribed tenantId plan rest) (event : RestEvent) :
    AdmitsByLive tenantId plan rest event ↔ NeedsNoDeletedSlot tenantId plan rest event := by
  cases event with
  | read index =>
      simp only [AdmitsByLive, NeedsNoDeletedSlot]
      refine forall_congr' fun call => forall_congr' fun found => forall_congr' fun own =>
        forall_congr' fun creates => ?_
      have onPlan := subscribed call (List.mem_of_getElem? found) own
      have fewer := liveProjects_le rest tenantId
      rw [check_creates rest creates, onPlan, own]
      constructor
      · rintro agree limit paid ⟨room, full⟩
        have others : ∀ other ∈ maxProjects plan, rest.liveProjects tenantId < other := by
          intro other same
          cases Option.some.inj (paid.symm.trans same)
          exact room
        have counted := agree.mpr others limit paid
        omega
      · intro needs
        constructor
        · intro counted limit paid
          exact Nat.lt_of_le_of_lt fewer (counted limit paid)
        · intro room limit paid
          have := needs limit paid
          have := room limit paid
          omega
  | _ => exact Iff.rfl

/-- Along every run of a tenant on a fixed plan, in turn or overlapping. -/
theorem admitsByLive_iff (hasher : AuthTokenRepo.PasswordHasher) (tenantId : String)
    (plan : Plan) (now : Instant) (events : List RestEvent)
    (fixed : Along (step hasher) (OnPlan tenantId plan) (initial now) events) :
    Along (step hasher) (AdmitsByLive tenantId plan) (initial now) events ↔
      Along (step hasher) (NeedsNoDeletedSlot tenantId plan) (initial now) events := by
  let kept := fun rest => Sound rest ∧ Subscribed tenantId plan rest
  have start : kept (initial now) := ⟨sound_initial now, subscribed_initial tenantId plan now⟩
  have preserved : ∀ {rest event next}, kept rest → OnPlan tenantId plan rest event →
      step hasher rest event = some next → kept next := by
    rintro rest event next ⟨sound, subscribed⟩ onPlan run
    have moved := step_moved run
    exact ⟨sound_moved sound moved, subscribed_moved sound subscribed onPlan moved⟩
  constructor
  · intro admits
    refine along_of_along kept ?_ start (fixed.and admits)
    intro rest event next held met run
    exact ⟨(admitsByLive_iff_step held.2 event).mp met.2, preserved held met.1 run⟩
  · intro needs
    refine along_of_along kept ?_ start (fixed.and needs)
    intro rest event next held met run
    exact ⟨(admitsByLive_iff_step held.2 event).mpr met.2, preserved held met.1 run⟩

/-- A free tenant asks for a project, and for another one after `more`. -/
def creationsAround (more : List RestEvent) : List RestEvent :=
  [.register "t" "Tenant" "t@example.com", .authenticate "t" (.createProject sampleProject),
    .read 0, .write 0 (sampleRandom "p")] ++ more

theorem admitsByLive_twoCreations : Along (step AuthTokenRepo.plainHasher)
    (AdmitsByLive "t" .free) (initial 0)
    (creationsAround [.authenticate "t" (.createProject sampleProject), .read 1]) :=
  (admitsByLive_iff AuthTokenRepo.plainHasher "t" .free 0 _ (by decide)).mpr (by decide)

/-- The deleted project still takes the only place of the free plan. -/
theorem admitsByLive_fails :
    ¬ ∀ (hasher : AuthTokenRepo.PasswordHasher) (tenantId : String) (plan : Plan)
      (now : Instant) (events : List RestEvent),
      Along (step hasher) (OnPlan tenantId plan) (initial now) events →
      Along (step hasher) (InTurn tenantId) (initial now) events →
      Along (step hasher) (AdmitsByLive tenantId plan) (initial now) events := by
  intro admits
  let events := creationsAround [.authenticate "t" (.deleteProject "p"), .read 1,
    .write 1 (sampleRandom ""), .authenticate "t" (.createProject sampleProject), .read 2]
  have admitted := admits AuthTokenRepo.plainHasher "t" .free 0 events (by decide) (by decide)
  exact absurd admitted (by decide)

/-! ## The flag and the history -/

/-- The flag of a stored project tells whether a deletion of it has been completed. -/
def Flagged (tenantId : String) (rest : Rest) : Prop :=
  ∀ projectId doc, rest.repo.store.projects.lookup projectId = some doc →
    doc.tenantId = tenantId →
      (doc.isActive = false ↔ projectId ∈ rest.deletedIds tenantId)

theorem flagged_initial (tenantId : String) (now : Instant) : Flagged tenantId (initial now) := by
  intro projectId doc stored
  cases stored

theorem deleted_of_request {call : RestCall} (tenantId : String)
    (others : ∀ projectId, call.request ≠ .deleteProject projectId) :
    call.deleted tenantId = none := by
  obtain ⟨tenant, request, phase⟩ := call
  cases request with
  | deleteProject projectId => exact absurd rfl (others projectId)
  | _ => cases phase <;> rfl

theorem deleted_of_phase {call : RestCall} (tenantId : String) (unwritten : call.phase ≠ .written) :
    call.deleted tenantId = none := by
  obtain ⟨tenant, request, phase⟩ := call
  cases phase with
  | written => exact absurd rfl unwritten
  | _ => rfl

theorem mem_deletedIds_setCall {rest : Rest} {index : Nat} {call : RestCall} {phase : RestPhase}
    {tenantId : String} (found : rest.calls[index]? = some call)
    (before : call.deleted tenantId = none) (projectId : String) :
    projectId ∈ (rest.setCall index phase).deletedIds tenantId ↔
      projectId ∈ rest.deletedIds tenantId ∨
        ({ call with phase := phase } : RestCall).deleted tenantId = some projectId := by
  let change : RestCall → RestCall := fun call => { call with phase := phase }
  cases after : (change call).deleted tenantId with
  | none =>
      have same : (rest.setCall index phase).deletedIds tenantId = rest.deletedIds tenantId :=
        Places.filterMap_modify_same found (after.trans before.symm)
      rw [same]
      simp
  | some deleted =>
      have grown : ((rest.setCall index phase).deletedIds tenantId).Perm
          (deleted :: rest.deletedIds tenantId) :=
        Places.filterMap_modify_new found before after
      rw [grown.mem_iff, List.mem_cons, Option.some.injEq, or_comm, eq_comm]

theorem deletedIds_kept {rest : Rest} {index : Nat} {call : RestCall} {phase : RestPhase}
    {tenantId : String} (found : rest.calls[index]? = some call)
    (before : call.deleted tenantId = none)
    (after : ({ call with phase := phase } : RestCall).deleted tenantId = none) :
    (rest.setCall index phase).deletedIds tenantId = rest.deletedIds tenantId :=
  Places.filterMap_modify_same found (after.trans before.symm)

theorem stored_of_deleted {rest : Rest} (sound : Sound rest) {tenantId projectId : String}
    (deleted : projectId ∈ rest.deletedIds tenantId) : rest.Stored projectId tenantId := by
  obtain ⟨⟨tenant, request, phase⟩, member, shows⟩ := List.mem_filterMap.mp deleted
  cases phase with
  | written =>
      cases request with
      | deleteProject named =>
          simp only [RestCall.deleted, Option.ite_none_right_eq_some, Option.some.injEq] at shows
          obtain ⟨own, rfl⟩ := shows
          rw [← own]
          exact sound.placed _ member rfl named rfl
      | _ => cases shows
  | _ => cases shows

theorem flagged_updated {rest : Rest} (sound : Sound rest) {tenantId : String}
    (flagged : Flagged tenantId rest) {index : Nat} {call : RestCall} {projectId : String}
    {basis : ProjectDoc} {write : Write} {updatedAt : Instant} {repo : ProjectRepo.State}
    (found : rest.calls[index]? = some call)
    (writing : call.phase = .writing (.updateProject projectId basis write updatedAt))
    (run : rest.repo.step (.updateOne projectId call.tenant.id write updatedAt) = some repo) :
    Flagged tenantId ((rest.withRepo repo).setCall index .written) := by
  have member := List.mem_of_getElem? found
  obtain ⟨store, accepted⟩ := sound.checked call member _ writing
  obtain ⟨before, stored, owner⟩ := sound.placed call member (by rw [writing]; rfl) projectId
    ((check_ok accepted).2 projectId rfl)
  have changed := lookup_updated stored owner run
  have here : (rest.withRepo repo).calls[index]? = some call := found
  have unwritten : call.deleted tenantId = none := by
    apply deleted_of_phase
    rw [writing]
    intro same
    cases same
  intro other doc found' own
  have last : repo.store.projects.lookup other = some doc := found'
  rw [mem_deletedIds_setCall here unwritten]
  by_cases same : other = projectId
  · subst same
    cases Option.some.inj (changed.symm.trans last)
    have known : before.isActive = false ↔ other ∈ (rest.withRepo repo).deletedIds tenantId :=
      flagged other before stored own
    have named : call.tenant.id = tenantId := owner.symm.trans own
    rcases (check_computes accepted).isActive with ⟨is, rfl⟩ | ⟨kept, others⟩
    · -- the deletion clears the flag and is completed at once
      have deletes : ({ call with phase := .written } : RestCall).deleted tenantId = some other := by
        simp only [RestCall.deleted, is, named, if_true]
      exact ⟨fun _ => Or.inr deletes, fun _ => rfl⟩
    · have undeleted : ({ call with phase := .written } : RestCall).deleted tenantId = none :=
        deleted_of_request tenantId others
      rw [undeleted]
      simp only [ProjectRepo.ProjectFields.set, kept, Option.getD_none, known]
      simp
  · rw [lookup_updateOne same run] at last
    have elsewhere : ({ call with phase := .written } : RestCall).deleted tenantId ≠ some other := by
      intro deletes
      obtain ⟨tenant, request, phase⟩ := call
      cases request with
      | deleteProject named =>
          simp only [RestCall.deleted, Option.ite_none_right_eq_some, Option.some.injEq] at deletes
          have about := (check_ok accepted).2 projectId rfl
          cases about
          exact same deletes.2.symm
      | _ => cases deletes
    exact (flagged other doc last own).trans (or_iff_left elsewhere).symm

variable {hasher : AuthTokenRepo.PasswordHasher}

theorem deletedIds_checked {rest : Rest} {index : Nat} {call : RestCall} {phase : RestPhase}
    (found : rest.calls[index]? = some call) (reading : call.phase = .reading)
    (unwritten : phase ≠ .written) (tenantId : String) :
    (rest.setCall index phase).deletedIds tenantId = rest.deletedIds tenantId := by
  have before : call.deleted tenantId = none := by
    apply deleted_of_phase
    rw [reading]
    intro same
    cases same
  exact deletedIds_kept found before (deleted_of_phase tenantId unwritten)

theorem flagged_moved {rest next : Rest} {event : RestEvent} {tenantId : String}
    (sound : Sound rest) (flagged : Flagged tenantId rest)
    (moved : Moved hasher rest event next) : Flagged tenantId next := by
  -- a call about to write something else than a document is no deletion
  have noDeletion : ∀ {call : RestCall} {pending : Pending}, call ∈ rest.calls →
      call.phase = .writing pending →
      (∀ projectId basis write updatedAt,
        pending ≠ .updateProject projectId basis write updatedAt) →
      ∀ projectId, call.request ≠ .deleteProject projectId := by
    intro call pending member writing noUpdate projectId is
    obtain ⟨store, accepted⟩ := sound.checked call member pending writing
    rw [is] at accepted
    cases check_computes accepted with
    | deleteProject read => exact noUpdate _ _ _ _ rfl
  have kept : ∀ {next : Rest}, next.repo.store.projects = rest.repo.store.projects →
      next.deletedIds tenantId = rest.deletedIds tenantId → Flagged tenantId next := by
    intro next store deletions projectId doc stored own
    rw [store] at stored
    rw [deletions]
    exact flagged projectId doc stored own
  cases moved with
  | refused => exact flagged
  | changedTenants identified => exact flagged
  | authenticated found active =>
      refine kept rfl ?_
      simp [deletedIds, RestCall.deleted]
  | checked found reading answer =>
      refine kept rfl (deletedIds_checked found reading ?_ tenantId)
      rcases answer with ⟨refusal, rfl⟩ | ⟨pending, rfl, accepted⟩
      · intro same
        cases same
      · intro same
        cases same
  | @insertedProject index call random body now repo found writing run =>
      have member := List.mem_of_getElem? found
      have others := noDeletion member writing fun _ _ _ _ same => by cases same
      have deletions : ((rest.withRepo repo).setCall index .written).deletedIds tenantId =
          rest.deletedIds tenantId := by
        have here : (rest.withRepo repo).calls[index]? = some call := found
        exact deletedIds_kept here (deleted_of_request tenantId others)
          (deleted_of_request tenantId others)
      intro projectId doc stored own
      rw [deletions]
      cases ProjectRepo.State.step_moved run with
      | created free =>
          rcases ProjectRepo.State.lookup_put stored with ⟨rfl, rfl⟩ | old
          · constructor
            · intro inactive
              cases inactive
            · intro deleted
              obtain ⟨before, found', _⟩ := stored_of_deleted sound deleted
              cases free.symm.trans found'
          · exact flagged projectId doc old own
  | updatedProject found writing run => exact flagged_updated sound flagged found writing run
  | insertedKey found writing fresh =>
      have others := noDeletion (List.mem_of_getElem? found) writing fun _ _ _ _ same => by
        cases same
      exact kept rfl (deletedIds_kept found (deleted_of_request tenantId others)
        (deleted_of_request tenantId others))
  | revokedKey found writing answer =>
      have others := noDeletion (List.mem_of_getElem? found) writing fun _ _ _ _ same => by
        cases same
      exact kept rfl (deletedIds_kept found (deleted_of_request tenantId others)
        (deleted_of_request tenantId others))
  | stored quiet run => exact kept (projects_quiet quiet run) rfl

/-- The projects that are not deleted are the active ones, in every run. -/
theorem liveProjects_eq_activeProjects (hasher : AuthTokenRepo.PasswordHasher)
    (tenantId : String) (now : Instant) (events : List RestEvent) :
    Always (step hasher) (fun rest => rest.liveProjects tenantId = rest.activeProjects tenantId)
      (initial now) events := by
  refine always_iff_reached.mpr fun front back rest _ run => ?_
  have held : Sound rest ∧ Flagged tenantId rest := by
    refine exec_invariant (fun rest => Sound rest ∧ Flagged tenantId rest) ?_
      ⟨sound_initial now, flagged_initial tenantId now⟩ run
    rintro rest event next ⟨sound, flagged⟩ run
    have moved := step_moved run
    exact ⟨sound_moved sound moved, flagged_moved sound flagged moved⟩
  obtain ⟨sound, flagged⟩ := held
  apply List.countP_congr
  intro doc member
  obtain ⟨projectId, stored⟩ := Tables.mem_rows.mp member
  have identity := sound.identified projectId doc stored
  simp only [Bool.and_eq_true, beq_iff_eq, Bool.not_eq_true', List.contains_eq_mem,
    decide_eq_false_iff_not]
  refine and_congr_right fun own => ?_
  rw [identity, ← flagged projectId doc stored own, Bool.not_eq_false]

end Rest

end LiveChat.Api
