import Mathlib.Data.Fintype.EquivFin
import LiveChat.Repositories.RefreshRotation

/-!
# The end of a token family

A family is `Ended` when nothing of it is stored or in flight; that lasts, because
only a call in flight can store a token of an old family.  A logout ends the families
of its tenant exactly when no refresh of the tenant is in flight.  The reuse of a
superseded token ends nothing: `verify_and_rotate` finds no document and returns.
-/

set_option autoImplicit false

namespace LiveChat.Repositories.AuthTokenRepo

open LiveChat.Core
open LiveChat.Foundation.TransitionSystem

namespace State

variable {hasher : PasswordHasher}

/-- The refreshes that succeeded with a token of one of the families. -/
def exchanges (state : State) (families : List String) : Nat :=
  (state.calls.filter fun call =>
    decide (call.phase = .rotated) && decide (call.matchedDoc.tokenFamily ∈ families)).length

/-- No token of the families is stored. -/
def NoneStored (families : List String) (state : State) : Prop :=
  ∀ doc ∈ state.store.authTokens, doc.tokenFamily ∉ families

structure Ended (families : List String) (state : State) : Prop where
  stored : NoneStored families state
  inFlight : ∀ call ∈ state.calls, call.inFlight = true → call.matchedDoc.tokenFamily ∉ families
  issued : ∀ family ∈ families, ∃ issued ∈ state.issued, issued.doc.tokenFamily = family

theorem exchanges_setPhase {state : State} {families : List String} {index : Nat}
    {call : RefreshCall} {phase : Phase} (found : state.calls[index]? = some call)
    (other : call.matchedDoc.tokenFamily ∉ families) :
    (state.setPhase index phase).exchanges families = state.exchanges families := by
  obtain ⟨inside, rfl⟩ := List.getElem?_eq_some_iff.mp found
  have split : state.calls = state.calls.take index ++
      state.calls[index] :: state.calls.drop (index + 1) := by simp
  have changed : (state.setPhase index phase).calls = state.calls.take index ++
      { state.calls[index] with phase := phase } :: state.calls.drop (index + 1) := by
    simp only [setPhase]
    rw [List.modify_eq_take_cons_drop inside]
  simp only [exchanges, changed]
  conv_rhs => rw [split]
  simp only [List.filter_append, List.filter_cons, other, decide_false, Bool.and_false,
    Bool.false_eq_true, if_false]

theorem ended_setPhase {state : State} {families : List String} {index : Nat}
    {call : RefreshCall} {phase : Phase} (ended : Ended families state)
    (found : state.calls[index]? = some call)
    (other : call.matchedDoc.tokenFamily ∉ families) :
    Ended families (state.setPhase index phase) := by
  refine ⟨ended.stored, ?_, ended.issued⟩
  intro after member flying
  obtain ⟨place, there⟩ := List.mem_iff_getElem?.mp member
  obtain ⟨before, entry, rfl⟩ := mem_setPhase there
  by_cases hit : index = place
  · subst hit
    cases Option.some.inj (found.symm.trans entry)
    simpa using other
  · rw [if_neg hit] at flying ⊢
    exact ended.inFlight before (List.mem_of_getElem? entry) flying

theorem ended_create {state : State} {families : List String} {random : Random}
    (ended : Ended families state) (tenantId : String) {tokenFamily : Option String}
    (other : (state.store.newDoc hasher tenantId tokenFamily random).tokenFamily ∉ families) :
    Ended families (state.create hasher tenantId tokenFamily random) := by
  rw [create_eq]
  refine ⟨?_, ended.inFlight, ?_⟩
  · intro doc member
    rcases List.mem_append.mp member with old | new
    · exact ended.stored doc old
    · cases List.mem_singleton.mp new
      exact other
  · intro family member
    obtain ⟨issued, old, same⟩ := ended.issued family member
    exact ⟨issued, List.mem_append_left _ old, same⟩

/-- An ended family stays ended, and nothing of it is exchanged any more. -/
theorem ended_moved {state next : State} {event : TokenEvent} {families : List String}
    (sound : Sound hasher state) (ended : Ended families state)
    (moved : Moved hasher state event next) :
    Ended families next ∧ next.exchanges families = state.exchanges families := by
  cases moved with
  | @login tenantId random unused =>
      refine ⟨ended_create ended tenantId ?_, rfl⟩
      intro member
      obtain ⟨issued, old, same⟩ := ended.issued random.family member
      exact (unused.2 issued old).2.2 same
  | rejected absent => exact ⟨ended, rfl⟩
  | @matched rawToken doc found =>
      have other := ended.stored doc (findVerified_sound sound found).1
      refine ⟨⟨ended.stored, ?_, ended.issued⟩, by simp [exchanges]⟩
      intro call member flying
      rcases List.mem_append.mp member with old | new
      · exact ended.inFlight call old flying
      · cases List.mem_singleton.mp new
        exact other
  | @deleted index call found phase =>
      have other := ended.inFlight call (List.mem_of_getElem? found)
        ((inFlight_of_phase phase).mpr (by simp))
      let removed : State := { state with store := state.store.deleteOne call.matchedDoc.id }
      have ended' : Ended families removed :=
        ⟨fun doc member => ended.stored doc (List.eraseP_sublist.subset member),
          ended.inFlight, ended.issued⟩
      have there : removed.calls[index]? = some call := found
      exact ⟨ended_setPhase ended' there other, exchanges_setPhase there other⟩
  | @inserted index call random found phase unused =>
      have member := List.mem_of_getElem? found
      have other := ended.inFlight call member ((inFlight_of_phase phase).mpr (by simp))
      have named : call.matchedDoc.tokenFamily ≠ "" := sound.family _ (sound.calls call member)
      let created := state.create hasher call.matchedDoc.tenantId
        (some call.matchedDoc.tokenFamily) random
      have ended' : Ended families created :=
        ended_create ended _ (by simpa [Store.newDoc, named] using other)
      have there : created.calls[index]? = some call := found
      exact ⟨ended_setPhase ended' there other, exchanges_setPhase there other⟩
  | removed takes calls issued kept =>
      refine ⟨⟨fun doc member => ended.stored doc (kept.subset member), ?_, ?_⟩, ?_⟩
      · exact calls ▸ ended.inFlight
      · exact issued ▸ ended.issued
      · simp only [exchanges, calls]

theorem ended_exec {state final : State} {events : List TokenEvent} {families : List String}
    (sound : Sound hasher state) (ended : Ended families state)
    (run : exec (step hasher) state events = some final) :
    Ended families final ∧ final.exchanges families = state.exchanges families := by
  have kept := exec_invariant (fun later => Sound hasher later ∧
      Ended families later ∧ later.exchanges families = state.exchanges families)
    (fun before event next ⟨sound, ended, count⟩ stepped => by
      obtain ⟨ended', count'⟩ := ended_moved sound ended (step_moved stepped)
      exact ⟨sound_moved sound (step_moved stepped), ended', count'.trans count⟩)
    ⟨sound, ended, rfl⟩ run
  exact kept.2

/-! ## Logout -/

/-- A family belongs to one tenant. -/
def FamilyTenant (state : State) : Prop :=
  ∀ first ∈ state.issued, ∀ second ∈ state.issued,
    first.doc.tokenFamily = second.doc.tokenFamily → first.doc.tenantId = second.doc.tenantId

theorem familyTenant_create {state : State} {random : Random} (apart : FamilyTenant state)
    {tenantId : String} {tokenFamily : Option String}
    (owned : ∀ issued ∈ state.issued, issued.doc.tokenFamily =
      (state.store.newDoc hasher tenantId tokenFamily random).tokenFamily →
        issued.doc.tenantId = tenantId) :
    FamilyTenant (state.create hasher tenantId tokenFamily random) := by
  rw [create_eq]
  intro first memberFirst second memberSecond same
  rcases List.mem_append.mp memberFirst with oldFirst | newFirst <;>
    rcases List.mem_append.mp memberSecond with oldSecond | newSecond
  · exact apart first oldFirst second oldSecond same
  · cases List.mem_singleton.mp newSecond
    exact owned first oldFirst same
  · cases List.mem_singleton.mp newFirst
    exact (owned second oldSecond same.symm).symm
  · cases List.mem_singleton.mp newFirst
    cases List.mem_singleton.mp newSecond
    rfl

theorem familyTenant_moved {state next : State} {event : TokenEvent}
    (sound : Sound hasher state) (apart : FamilyTenant state)
    (moved : Moved hasher state event next) : FamilyTenant next := by
  cases moved with
  | @login tenantId random unused =>
      exact familyTenant_create apart fun issued member same =>
        absurd same (unused.2 issued member).2.2
  | rejected absent => exact apart
  | matched found => exact apart
  | deleted found phase => exact apart
  | @inserted index call random found phase unused =>
      have issued := sound.calls call (List.mem_of_getElem? found)
      have named : call.matchedDoc.tokenFamily ≠ "" := sound.family _ issued
      have owned : FamilyTenant (state.create hasher call.matchedDoc.tenantId
          (some call.matchedDoc.tokenFamily) random) := by
        refine familyTenant_create apart fun other member same => ?_
        simp only [Store.newDoc, named, if_false] at same
        exact apart other member _ issued same
      exact owned
  | removed takes calls issued kept =>
      intro first memberFirst second memberSecond
      rw [issued] at memberFirst memberSecond
      exact apart first memberFirst second memberSecond

theorem reachable_sound {now : Instant} {state : State} {events : List TokenEvent}
    (run : exec (step hasher) (initial now) events = some state) :
    Sound hasher state ∧ FamilyTenant state :=
  exec_invariant (fun state => Sound hasher state ∧ FamilyTenant state)
    (fun _ _ _ ⟨sound, apart⟩ stepped => ⟨sound_moved sound (step_moved stepped),
      familyTenant_moved sound apart (step_moved stepped)⟩)
    ⟨sound_initial now, by intro first member; cases member⟩ run

/-- The families of the tenant that exist so far. -/
def familiesOf (state : State) (tenantId : String) : List String :=
  (state.issued.filter fun issued => decide (issued.doc.tenantId = tenantId)).map
    fun issued => issued.doc.tokenFamily

theorem mem_familiesOf {state : State} {tenantId family : String} :
    family ∈ state.familiesOf tenantId ↔
      ∃ issued ∈ state.issued, issued.doc.tenantId = tenantId ∧
        issued.doc.tokenFamily = family := by
  simp [familiesOf, and_assoc]

def logout (state : State) (tenantId : String) : State :=
  { state with store := state.store.revokeForTenant tenantId }

/-- From now on no token of the families is stored, and none is exchanged. -/
def FinalFor (hasher : PasswordHasher) (families : List String) (state : State) : Prop :=
  ∀ later, Always (step hasher)
    (fun after => NoneStored families after ∧
      after.exchanges families = state.exchanges families) state later

theorem finalFor_of_ended {state : State} {families : List String} (sound : Sound hasher state)
    (ended : Ended families state) : FinalFor hasher families state := by
  intro later
  refine always_iff_reached.mpr fun front back middle _ run => ?_
  obtain ⟨ended', count⟩ := ended_exec sound ended run
  exact ⟨ended'.stored, count⟩

theorem ended_logout {state : State} {tenantId : String} (sound : Sound hasher state)
    (apart : FamilyTenant state)
    (idle : ∀ call ∈ state.calls, call.inFlight = true → call.matchedDoc.tenantId ≠ tenantId) :
    Ended (state.familiesOf tenantId) (state.logout tenantId) := by
  have owner : ∀ {doc : AuthTokenDoc} {rawToken : String}, ⟨doc, rawToken⟩ ∈ state.issued →
      doc.tokenFamily ∈ state.familiesOf tenantId → doc.tenantId = tenantId := by
    intro doc rawToken issued member
    obtain ⟨other, otherIssued, owned, same⟩ := mem_familiesOf.mp member
    exact (apart _ issued other otherIssued same.symm).trans owned
  refine ⟨?_, ?_, ?_⟩
  · intro doc member old
    obtain ⟨present, kept⟩ := List.mem_filter.mp member
    obtain ⟨rawToken, issued⟩ := sound.stored doc present
    exact absurd (owner issued old) (by simpa using kept)
  · intro call member flying old
    exact idle call member flying (owner (sound.calls call member) old)
  · intro family member
    obtain ⟨issued, there, _, same⟩ := mem_familiesOf.mp member
    exact ⟨issued, there, same⟩

theorem exists_unused (state : State) : ∃ random, state.Unused random := by
  obtain ⟨name, fresh⟩ := Infinite.exists_notMem_finset
    ("" :: state.issued.map (fun issued => issued.rawToken) ++
      state.issued.map (fun issued => issued.doc.id) ++
      state.issued.map fun issued => issued.doc.tokenFamily).toFinset
  simp only [List.mem_toFinset, List.mem_append, List.mem_cons, List.mem_map, not_or,
    not_exists, not_and] at fresh
  exact ⟨⟨name, "", name, name⟩, fresh.1.1.1, fun issued member =>
    ⟨fresh.1.1.2 issued member, fresh.1.2 issued member, fresh.2 issued member⟩⟩

theorem insert_stores {state : State} (sound : Sound hasher state) {index : Nat}
    {call : RefreshCall} (found : state.calls[index]? = some call)
    (phase : call.phase = .deleted) :
    ∃ random next, state.step hasher (.insert index random) = some next ∧
      ∃ doc ∈ next.store.authTokens, doc.tokenFamily = call.matchedDoc.tokenFamily := by
  obtain ⟨random, unused⟩ := exists_unused state
  have named : call.matchedDoc.tokenFamily ≠ "" :=
    sound.family _ (sound.calls call (List.mem_of_getElem? found))
  obtain ⟨rawToken, doc, phase'⟩ := call
  cases phase
  refine ⟨random, (state.create hasher doc.tenantId (some doc.tokenFamily) random).setPhase
    index .rotated, by simp only [step, found, unused, if_true], ?_⟩
  refine ⟨state.store.newDoc hasher doc.tenantId (some doc.tokenFamily) random, ?_, ?_⟩
  · exact List.mem_append_right _ List.mem_cons_self
  · simpa [Store.newDoc] using fun empty => absurd empty named

/-- A refresh in flight brings its family back. -/
theorem inFlight_stores {state : State} (sound : Sound hasher state) {call : RefreshCall}
    (member : call ∈ state.calls) (flying : call.inFlight = true) :
    ∃ later final, exec (step hasher) state later = some final ∧
      ∃ doc ∈ final.store.authTokens, doc.tokenFamily = call.matchedDoc.tokenFamily := by
  obtain ⟨index, found⟩ := List.mem_iff_getElem?.mp member
  cases phase : call.phase with
  | rotated => simp [RefreshCall.inFlight, phase] at flying
  | deleted =>
      obtain ⟨random, next, inserted, stores⟩ := insert_stores sound found phase
      exact ⟨[.insert index random], next, by simp [inserted], stores⟩
  | verified =>
      have deletes : state.step hasher (.delete index) = some ({ state with
          store := state.store.deleteOne call.matchedDoc.id }.setPhase index .deleted) := by
        obtain ⟨rawToken, doc, phase'⟩ := call
        cases phase
        simp only [step, found]
      have sound' := sound_moved sound (step_moved deletes)
      have found' : ({ state with
          store := state.store.deleteOne call.matchedDoc.id }.setPhase index .deleted).calls[index]? =
            some { call with phase := .deleted } := by
        simp [setPhase, found]
      obtain ⟨random, next, inserted, stores⟩ := insert_stores sound' found' rfl
      exact ⟨[.delete index, .insert index random], next, by simp [deletes, inserted], stores⟩

/-- A logout is final for the families of its tenant, whatever happens later, if and
only if no refresh of the tenant is in flight when its `delete_many` runs. -/
theorem logout_final_iff (hasher : PasswordHasher) (now : Instant) (events : List TokenEvent)
    (state : State) (run : exec (step hasher) (initial now) events = some state)
    (tenantId : String) :
    FinalFor hasher (state.familiesOf tenantId) (state.logout tenantId) ↔
      ∀ call ∈ state.calls, call.inFlight = true → call.matchedDoc.tenantId ≠ tenantId := by
  obtain ⟨sound, apart⟩ := reachable_sound run
  have sound' : Sound hasher (state.logout tenantId) :=
    sound_of_sublist sound rfl rfl List.filter_sublist
  constructor
  · intro final call member flying owned
    obtain ⟨later, after, run', doc, stored, same⟩ :=
      inFlight_stores sound' member flying
    refine ((final later).last run').1 doc stored ?_
    rw [same]
    exact mem_familiesOf.mpr ⟨_, sound.calls call member, owned, rfl⟩
  · exact fun idle => finalFor_of_ended sound' (ended_logout sound apart idle)

def refreshed : List TokenEvent :=
  [.login "t" (drawn 0), .find "raw0", .delete 0, .insert 0 (drawn 1)]

/-- The logout of a tenant whose refresh is over is final; with its next refresh in
flight it is not. -/
theorem logout_final_idle :
    (∃ state, exec (step plainHasher) (initial 0) refreshed = some state ∧
      FinalFor plainHasher (state.familiesOf "t") (state.logout "t")) ∧
    ∃ state, exec (step plainHasher) (initial 0) (refreshed ++ [.find "raw1"]) = some state ∧
      ¬ FinalFor plainHasher (state.familiesOf "t") (state.logout "t") := by
  have ended : (exec (step plainHasher) (initial 0) refreshed).map (fun state =>
      state.calls.map fun call => call.inFlight) = some [false] := by decide
  have flying : (exec (step plainHasher) (initial 0) (refreshed ++ [.find "raw1"])).map (fun state =>
      state.calls.map fun call => (call.inFlight, call.matchedDoc.tenantId)) =
        some [(false, "t"), (true, "t")] := by decide
  obtain ⟨state, run, flags⟩ := Option.map_eq_some_iff.mp ended
  obtain ⟨state', run', flags'⟩ := Option.map_eq_some_iff.mp flying
  refine ⟨⟨state, run, ?_⟩, state', run', ?_⟩
  · refine (logout_final_iff plainHasher 0 refreshed state run "t").mpr fun call member flying => ?_
    have listed := List.mem_map_of_mem (f := fun call => call.inFlight) member
    simp [flags, flying] at listed
  · intro final
    obtain ⟨call, member, look⟩ : ∃ call ∈ state'.calls,
        (call.inFlight, call.matchedDoc.tenantId) = (true, "t") :=
      List.mem_map.mp (flags' ▸ List.mem_cons_of_mem _ List.mem_cons_self)
    obtain ⟨flying, owned⟩ := Prod.mk.inj look
    exact (logout_final_iff plainHasher 0 _ state' run' "t").mp final call member flying owned

/-- A refresh that has verified its token when the logout runs stores a successor. -/
theorem logout_final_fails :
    ¬ ∀ (hasher : PasswordHasher) (now : Instant) (events : List TokenEvent) (state : State),
      exec (step hasher) (initial now) events = some state → ∀ tenantId,
        FinalFor hasher (state.familiesOf tenantId) (state.logout tenantId) := by
  intro final
  have shape : ((exec (step plainHasher) (initial 0) [.login "t" (drawn 0), .find "raw0"]).bind
      fun state => exec (step plainHasher) (state.logout "t") [.delete 0, .insert 0 (drawn 1)]).map
        (fun after => after.store.authTokens.map fun doc => doc.tokenFamily) =
          some ["family0"] := by decide
  obtain ⟨after, ran, families⟩ := Option.map_eq_some_iff.mp shape
  obtain ⟨state, run, run'⟩ := Option.bind_eq_some_iff.mp ran
  have none := ((final plainHasher 0 _ state run "t" _).last run').1
  obtain ⟨doc, stored, same⟩ : ∃ doc ∈ after.store.authTokens, doc.tokenFamily = "family0" := by
    have member : "family0" ∈ after.store.authTokens.map fun doc => doc.tokenFamily := by
      simp [families]
    exact List.mem_map.mp member
  refine none doc stored ?_
  have issued : (exec (step plainHasher) (initial 0) [.login "t" (drawn 0), .find "raw0"]).map
      (fun state => state.familiesOf "t") = some ["family0"] := by decide
  rw [run] at issued
  have families' : state.familiesOf "t" = ["family0"] := Option.some.inj issued
  rw [families', same]
  exact List.mem_cons_self

/-! ## Reuse of a superseded token -/

/-- One request after the other. -/
inductive TokenOp where
  | login (tenantId : String) (random : Random)
  | refresh (rawToken : String) (random : Random)
  | logout (tenantId : String)
  | expire (id : String)
  | tick (elapsed : Nat)

/-- The commands of a request that nothing interrupts. -/
def commands (hasher : PasswordHasher) (state : State) : TokenOp → List TokenEvent
  | .login tenantId random => [.login tenantId random]
  | .refresh rawToken random =>
      match state.store.findVerified hasher rawToken none with
      | none => [.find rawToken]
      | some _ => [.find rawToken, .delete state.calls.length, .insert state.calls.length random]
  | .logout tenantId => [.logout tenantId]
  | .expire id => [.expire id]
  | .tick elapsed => [.tick elapsed]

def request (hasher : PasswordHasher) (state : State) (op : TokenOp) : Option State :=
  exec (step hasher) state (state.commands hasher op)

theorem modify_last {α : Type} (items : List α) (item : α) (change : α → α) :
    (items ++ [item]).modify items.length change = items ++ [change item] := by
  induction items with
  | nil => rfl
  | cons head rest ih => simp [ih]

theorem exec_refresh {state next : State} {rawToken : String} {random : Random}
    {doc : AuthTokenDoc} (found : state.store.findVerified hasher rawToken none = some doc)
    (run : exec (step hasher) state [.find rawToken, .delete state.calls.length,
      .insert state.calls.length random] = some next) :
    next.store = ((state.store.deleteOne doc.id).create hasher doc.tenantId
        (some doc.tokenFamily) random).1 ∧
      next.calls = state.calls ++ [⟨rawToken, doc, .rotated⟩] := by
  obtain ⟨first, finds, rest⟩ := exec_cons_some run
  obtain ⟨second, deletes, rest'⟩ := exec_cons_some rest
  obtain ⟨third, inserts, rest''⟩ := exec_cons_some rest'
  cases Option.some.inj rest''
  have matched : first = { state with calls := state.calls ++ [⟨rawToken, doc, .verified⟩] } := by
    simp only [step, found] at finds
    exact (Option.some.inj finds).symm
  subst matched
  cases step_moved deletes with
  | removed takes => cases takes
  | @deleted _ call there phase =>
      have own : call = ⟨rawToken, doc, .verified⟩ := by simpa using there.symm
      subst own
      cases step_moved inserts with
      | removed takes => cases takes
      | @inserted _ call' random there' phase' unused =>
          have own' : call' = ⟨rawToken, doc, .deleted⟩ := by
            simpa [setPhase] using there'.symm
          subst own'
          exact ⟨rfl, by simp only [setPhase, create_eq, modify_last]⟩

theorem exec_refresh_none {state next : State} {rawToken : String}
    (absent : state.store.findVerified hasher rawToken none = none)
    (run : exec (step hasher) state [.find rawToken] = some next) : next = state := by
  simpa [step, absent, eq_comm] using run

/-- Uninterrupted, the commands of a refresh do what `verify_and_rotate` does. -/
theorem request_refresh {state next : State} {rawToken : String} {random : Random}
    (run : state.request hasher (.refresh rawToken random) = some next) :
    next.store = (state.store.verifyAndRotate hasher rawToken none random).1 := by
  simp only [request, commands] at run
  cases found : state.store.findVerified hasher rawToken none with
  | none =>
      rw [found] at run
      rw [exec_refresh_none found run]
      simp [Store.verifyAndRotate, found]
  | some doc =>
      rw [found] at run
      simp only [Store.verifyAndRotate, found]
      exact (exec_refresh found run).1

/-- Between requests no refresh is in flight. -/
def Idle (state : State) : Prop := ∀ call ∈ state.calls, call.inFlight = false

/-- What holds after every sequence of requests. -/
structure Settled (hasher : PasswordHasher) (state : State) : Prop where
  sound : Sound hasher state
  linear : Linear state
  idle : Idle state

theorem settled_event {state next : State} {event : TokenEvent} (settled : Settled hasher state)
    (run : state.step hasher event = some next) (apart : NoOverlap hasher state event)
    (calls : next.calls = state.calls) : Settled hasher next :=
  ⟨sound_moved settled.sound (step_moved run),
    linear_moved settled.sound settled.linear apart (step_moved run),
    fun call member => settled.idle call (calls ▸ member)⟩

theorem settled_request {state next : State} {op : TokenOp} (settled : Settled hasher state)
    (run : state.request hasher op = some next) : Settled hasher next := by
  cases op with
  | login tenantId random =>
      have stepped : state.step hasher (.login tenantId random) = some next := by
        simpa [request, commands] using run
      cases step_moved stepped with
      | login _ unused => exact settled_event settled stepped trivial rfl
      | removed takes => cases takes
  | logout tenantId =>
      have stepped : state.step hasher (.logout tenantId) = some next := by
        simpa [request, commands] using run
      exact settled_event settled stepped trivial (by cases stepped; rfl)
  | expire id =>
      have stepped : state.step hasher (.expire id) = some next := by
        simpa [request, commands] using run
      exact settled_event settled stepped trivial (by cases stepped; rfl)
  | tick elapsed =>
      have stepped : state.step hasher (.tick elapsed) = some next := by
        simpa [request, commands] using run
      exact settled_event settled stepped trivial (by cases stepped; rfl)
  | refresh rawToken random =>
      simp only [request, commands] at run
      cases found : state.store.findVerified hasher rawToken none with
      | none =>
          rw [found] at run
          rw [exec_refresh_none found run]
          exact settled
      | some doc =>
          rw [found] at run
          have calls := (exec_refresh found run).2
          -- the three commands, and no other call to overlap with
          obtain ⟨first, finds, rest⟩ := exec_cons_some run
          obtain ⟨second, deletes, rest'⟩ := exec_cons_some rest
          obtain ⟨third, inserts, rest''⟩ := exec_cons_some rest'
          cases Option.some.inj rest''
          have alone : NoOverlap hasher state (.find rawToken) :=
            fun doc _ call member _ => settled.idle call member
          have sound := sound_moved settled.sound (step_moved finds)
          have linear := linear_moved settled.sound settled.linear alone (step_moved finds)
          have apart : NoOverlap hasher first (.delete state.calls.length) := trivial
          have sound' := sound_moved sound (step_moved deletes)
          have linear' := linear_moved sound linear apart (step_moved deletes)
          have apart' : NoOverlap hasher second (.insert state.calls.length random) := trivial
          refine ⟨sound_moved sound' (step_moved inserts),
            linear_moved sound' linear' apart' (step_moved inserts), ?_⟩
          intro call member
          rw [calls] at member
          rcases List.mem_append.mp member with old | new
          · exact settled.idle call old
          · cases List.mem_singleton.mp new
            rfl

theorem settled_requests {now : Instant} {state : State} {ops : List TokenOp}
    (run : exec (request hasher) (initial now) ops = some state) : Settled hasher state :=
  exec_invariant (Settled hasher) (fun _ _ _ settled stepped => settled_request settled stepped)
    ⟨sound_initial now, linear_initial now, by intro call member; cases member⟩ run

/-- After the request no token of the family is stored in any later state, and none
is exchanged by any later request. -/
def DeadAfter (hasher : PasswordHasher) (family : String) (state : State) : Prop :=
  ∀ later, Always (request hasher)
    (fun after => NoneStored [family] after ∧
      after.exchanges [family] = state.exchanges [family]) state later

theorem deadAfter_of_ended {state : State} {family : String} (settled : Settled hasher state)
    (ended : Ended [family] state) : DeadAfter hasher family state := by
  intro later
  refine always_iff_reached.mpr fun front back middle _ run => ?_
  have kept := exec_invariant (fun after => Settled hasher after ∧
      Ended [family] after ∧ after.exchanges [family] = state.exchanges [family])
    (fun before op next ⟨settled, ended, count⟩ requested => by
      obtain ⟨ended', count'⟩ := ended_exec settled.sound ended requested
      exact ⟨settled_request settled requested, ended', count'.trans count⟩)
    ⟨settled, ended, rfl⟩ run
  exact ⟨kept.2.1.stored, kept.2.2⟩

theorem findVerified_superseded {state : State} (settled : Settled hasher state)
    {call : RefreshCall} (member : call ∈ state.calls) (superseded : call.phase = .rotated) :
    state.store.findVerified hasher call.rawToken none = none := by
  cases found : state.store.findVerified hasher call.rawToken none with
  | none => rfl
  | some doc =>
      obtain ⟨present, issued⟩ := findVerified_sound settled.sound found
      have same := congrArg Issued.doc
        (settled.sound.rawToken _ issued _ (settled.sound.calls call member) rfl)
      simp only at same
      exact absurd (same ▸ present)
        (settled.linear.consumed call member (by simp [superseded]))

/-- Presenting a superseded token leaves its family dead, if and only if nothing of the
family was stored before. -/
theorem reuse_kills_iff (hasher : PasswordHasher) (now : Instant) (ops : List TokenOp)
    (state : State) (run : exec (request hasher) (initial now) ops = some state)
    (call : RefreshCall) (member : call ∈ state.calls) (superseded : call.phase = .rotated)
    (random : Random) (next : State)
    (reused : state.request hasher (.refresh call.rawToken random) = some next) :
    DeadAfter hasher call.matchedDoc.tokenFamily next ↔
      NoneStored [call.matchedDoc.tokenFamily] state := by
  have settled := settled_requests run
  constructor
  · intro dead
    have unchanged : next = state := by
      have absent := findVerified_superseded settled member superseded
      simp only [request, commands, absent] at reused
      exact exec_refresh_none absent reused
    exact unchanged ▸ ((dead []).head).1
  · intro none
    have ended : Ended [call.matchedDoc.tokenFamily] state := by
      refine ⟨none, ?_, ?_⟩
      · intro other member' flying
        simp [settled.idle other member'] at flying
      · intro family named
        cases List.mem_singleton.mp named
        exact ⟨_, settled.sound.calls call member, rfl⟩
    exact deadAfter_of_ended (settled_request settled reused)
      (ended_exec settled.sound ended reused).1

def rotatedOnce : List TokenOp := [.login "t" (drawn 0), .refresh "raw0" (drawn 1)]

/-- After the requests the first token is superseded, the families are those of the stored
tokens, and the reuse leaves them stored. -/
def Reuses (ops : List TokenOp) (families : List String) : Prop :=
  (exec (request plainHasher) (initial 0) ops).bind (fun state =>
    (state.request plainHasher (.refresh "raw0" (drawn 2))).map fun next =>
      (state.calls.map fun call => (call.rawToken, call.phase, call.matchedDoc.tokenFamily),
        state.store.authTokens.map fun doc => doc.tokenFamily,
        next.store.authTokens.map fun doc => doc.tokenFamily)) =
    some ([("raw0", .rotated, "family0")], families, families)

theorem Reuses.superseded {ops : List TokenOp} {families : List String}
    (reuses : Reuses ops families) :
    ∃ state call next, exec (request plainHasher) (initial 0) ops = some state ∧
      call ∈ state.calls ∧ call.phase = .rotated ∧ call.matchedDoc.tokenFamily = "family0" ∧
      state.request plainHasher (.refresh call.rawToken (drawn 2)) = some next ∧
      (state.store.authTokens.map fun doc => doc.tokenFamily) = families ∧
      (next.store.authTokens.map fun doc => doc.tokenFamily) = families := by
  obtain ⟨state, run, rest⟩ := Option.bind_eq_some_iff.mp reuses
  obtain ⟨next, reused, facts⟩ := Option.map_eq_some_iff.mp rest
  obtain ⟨calls, stored⟩ := Prod.mk.inj facts
  obtain ⟨call, member, look⟩ : ∃ call ∈ state.calls,
      (call.rawToken, call.phase, call.matchedDoc.tokenFamily) = ("raw0", .rotated, "family0") :=
    List.mem_map.mp (calls ▸ List.mem_cons_self)
  obtain ⟨rawToken, superseded, family⟩ : call.rawToken = "raw0" ∧ call.phase = .rotated ∧
      call.matchedDoc.tokenFamily = "family0" := by simpa using look
  rw [← rawToken] at reused
  exact ⟨state, call, next, run, member, superseded, family, reused, Prod.mk.inj stored⟩

theorem noneStored_singleton {state : State} {family : String} :
    NoneStored [family] state ↔ family ∉ state.store.authTokens.map fun doc => doc.tokenFamily := by
  simp [NoneStored]

/-- The reuse leaves the family alive, and after a logout it leaves it dead. -/
theorem reuse_kills_rotated :
    (∃ state call next, exec (request plainHasher) (initial 0) rotatedOnce = some state ∧
      call ∈ state.calls ∧ state.request plainHasher (.refresh call.rawToken (drawn 2)) = some next ∧
      ¬ DeadAfter plainHasher call.matchedDoc.tokenFamily next) ∧
    ∃ state call next, exec (request plainHasher) (initial 0) (rotatedOnce ++ [.logout "t"]) =
        some state ∧
      call ∈ state.calls ∧ state.request plainHasher (.refresh call.rawToken (drawn 2)) = some next ∧
      DeadAfter plainHasher call.matchedDoc.tokenFamily next := by
  have alive : Reuses rotatedOnce ["family0"] := by unfold Reuses; decide
  have revoked : Reuses (rotatedOnce ++ [.logout "t"]) [] := by unfold Reuses; decide
  obtain ⟨state, call, next, run, member, superseded, family, reused, stored, _⟩ := alive.superseded
  obtain ⟨state', call', next', run', member', superseded', _, reused', stored', _⟩ :=
    revoked.superseded
  refine ⟨⟨state, call, next, run, member, reused, ?_⟩, state', call', next', run', member',
    reused', ?_⟩
  · rw [reuse_kills_iff plainHasher 0 _ state run call member superseded _ next reused,
      noneStored_singleton, stored, family]
    simp
  · rw [reuse_kills_iff plainHasher 0 _ state' run' call' member' superseded' _ next' reused',
      noneStored_singleton, stored']
    simp

/-- The reuse is answered with 401 and nothing more: the stolen family lives on. -/
theorem reuse_kills_fails :
    ¬ ∀ (hasher : PasswordHasher) (now : Instant) (ops : List TokenOp) (state : State),
      exec (request hasher) (initial now) ops = some state → ∀ call ∈ state.calls,
        call.phase = .rotated → ∀ random next,
          state.request hasher (.refresh call.rawToken random) = some next →
            DeadAfter hasher call.matchedDoc.tokenFamily next := by
  intro kills
  have alive : Reuses rotatedOnce ["family0"] := by unfold Reuses; decide
  obtain ⟨state, call, next, run, member, superseded, family, reused, _, stored⟩ := alive.superseded
  have dead := kills plainHasher 0 rotatedOnce state run call member superseded _ next reused
  refine noneStored_singleton.mp (dead []).head.1 ?_
  rw [stored, family]
  exact List.mem_cons_self

end State

end LiveChat.Repositories.AuthTokenRepo
