import LiveChat.Foundation.Places
import LiveChat.Repositories.AuthTokenRepo

/-!
# Rotation of refresh tokens

Three questions about `verify_and_rotate`: is a token exchanged once only, is a
superseded token answered by the end of its family, and is a logout final?  `Sound`
holds in every reachable state; it ties each stored document and each matched call
to the one raw token it was issued with.  `Linear` is what overlapping calls on one
token break, and what makes every family a chain with at most one stored end.
-/

set_option autoImplicit false

namespace LiveChat.Repositories.AuthTokenRepo

open LiveChat.Core
open LiveChat.Foundation
open LiveChat.Foundation.TransitionSystem

namespace State

variable {hasher : PasswordHasher}

/-- `logout`, the TTL index and the clock only take documents away. -/
def removes : TokenEvent → Bool
  | .logout _ | .expire _ | .tick _ => true
  | _ => false

/-- The steps of the token system. -/
inductive Moved (hasher : PasswordHasher) (state : State) : TokenEvent → State → Prop where
  | login (tenantId : String) {random : Random} (unused : state.Unused random) :
      Moved hasher state (.login tenantId random) (state.create hasher tenantId none random)
  | rejected {rawToken : String} (absent : state.store.findVerified hasher rawToken none = none) :
      Moved hasher state (.find rawToken) state
  | matched {rawToken : String} {doc : AuthTokenDoc}
      (found : state.store.findVerified hasher rawToken none = some doc) :
      Moved hasher state (.find rawToken)
        { state with calls := state.calls ++ [⟨rawToken, doc, .verified⟩] }
  | deleted {index : Nat} {call : RefreshCall} (found : state.calls[index]? = some call)
      (phase : call.phase = .verified) :
      Moved hasher state (.delete index)
        ({ state with store := state.store.deleteOne call.matchedDoc.id }.setPhase index .deleted)
  | inserted {index : Nat} {call : RefreshCall} {random : Random}
      (found : state.calls[index]? = some call) (phase : call.phase = .deleted)
      (unused : state.Unused random) :
      Moved hasher state (.insert index random)
        ((state.create hasher call.matchedDoc.tenantId (some call.matchedDoc.tokenFamily)
          random).setPhase index .rotated)
  | removed {event : TokenEvent} {next : State} (takes : removes event = true)
      (calls : next.calls = state.calls) (issued : next.issued = state.issued)
      (kept : next.store.authTokens.Sublist state.store.authTokens) :
      Moved hasher state event next

theorem step_moved {state next : State} {event : TokenEvent}
    (run : state.step hasher event = some next) : Moved hasher state event next := by
  cases event with
  | login tenantId random =>
      simp only [step] at run
      split at run
      · rename_i unused
        cases run
        exact .login tenantId unused
      · cases run
  | find rawToken =>
      simp only [step] at run
      split at run
      · rename_i absent
        cases run
        exact .rejected absent
      · rename_i doc found
        cases run
        exact .matched found
  | delete call =>
      simp only [step] at run
      split at run
      · rename_i rawToken doc found
        cases run
        exact .deleted found rfl
      · cases run
  | insert call random =>
      simp only [step] at run
      split at run
      · rename_i rawToken doc found
        split at run
        · rename_i unused
          cases run
          exact .inserted found rfl unused
        · cases run
      · cases run
  | logout tenantId =>
      cases run
      exact .removed rfl rfl rfl List.filter_sublist
  | expire id =>
      cases run
      exact .removed rfl rfl rfl List.filter_sublist
  | tick elapsed =>
      cases run
      exact .removed rfl rfl rfl (List.Sublist.refl _)

/-! ## What holds in every reachable state -/

structure Sound (hasher : PasswordHasher) (state : State) : Prop where
  hashed : ∀ issued ∈ state.issued, ∃ salt,
    issued.doc.tokenHash = hasher.hash salt issued.rawToken
  rawToken : ∀ first ∈ state.issued, ∀ second ∈ state.issued,
    first.rawToken = second.rawToken → first = second
  id : ∀ first ∈ state.issued, ∀ second ∈ state.issued,
    first.doc.id = second.doc.id → first = second
  family : ∀ issued ∈ state.issued, issued.doc.tokenFamily ≠ ""
  stored : ∀ doc ∈ state.store.authTokens, ∃ rawToken, ⟨doc, rawToken⟩ ∈ state.issued
  nodup : state.store.authTokens.Nodup
  calls : ∀ call ∈ state.calls, ⟨call.matchedDoc, call.rawToken⟩ ∈ state.issued

theorem sound_initial (now : Instant) : Sound hasher (initial now) := by
  constructor <;> simp [initial]

/-- A verified document is stored, and was issued with the raw token presented. -/
theorem findVerified_sound {state : State} (sound : Sound hasher state) {rawToken : String}
    {doc : AuthTokenDoc} (found : state.store.findVerified hasher rawToken none = some doc) :
    doc ∈ state.store.authTokens ∧ ⟨doc, rawToken⟩ ∈ state.issued := by
  have member := List.mem_of_find?_eq_some found
  have verifies := List.find?_some found
  simp only [Bool.and_eq_true] at verifies
  obtain ⟨issuedWith, issued⟩ := sound.stored doc member
  obtain ⟨salt, hash⟩ := sound.hashed _ issued
  simp only at hash
  have same := (hasher.verify_hash salt issuedWith rawToken).mp (hash ▸ verifies.2)
  exact ⟨member, same ▸ issued⟩

/-- The document and the raw token that `create` issues. -/
def newIssued (hasher : PasswordHasher) (state : State) (tenantId : String)
    (tokenFamily : Option String) (random : Random) : Issued :=
  ⟨state.store.newDoc hasher tenantId tokenFamily random, random.rawToken⟩

theorem create_eq (state : State) (tenantId : String) (tokenFamily : Option String)
    (random : Random) :
    state.create hasher tenantId tokenFamily random =
      { state with
        store := state.store.insertOne (state.store.newDoc hasher tenantId tokenFamily random)
        issued := state.issued ++ [state.newIssued hasher tenantId tokenFamily random] } := rfl

theorem newDoc_fresh {state : State} {random : Random} (unused : state.Unused random)
    (tenantId : String) (tokenFamily : Option String) {issued : Issued}
    (member : issued ∈ state.issued) :
    issued.doc ≠ state.store.newDoc hasher tenantId tokenFamily random := by
  intro same
  exact (unused.2 issued member).2.1 (congrArg AuthTokenDoc.id same)

theorem sound_create {state : State} (sound : Sound hasher state) {random : Random}
    (unused : state.Unused random) (tenantId : String) (tokenFamily : Option String)
    (named : tokenFamily ≠ some "") :
    Sound hasher (state.create hasher tenantId tokenFamily random) := by
  have apart := unused.2
  rw [create_eq]
  refine ⟨?_, ?_, ?_, ?_, ?_, ?_, ?_⟩
  · intro issued member
    rcases List.mem_append.mp member with old | new
    · exact sound.hashed issued old
    · cases List.mem_singleton.mp new
      exact ⟨random.salt, rfl⟩
  · intro first memberFirst second memberSecond same
    rcases List.mem_append.mp memberFirst with oldFirst | newFirst <;>
      rcases List.mem_append.mp memberSecond with oldSecond | newSecond
    · exact sound.rawToken first oldFirst second oldSecond same
    · cases List.mem_singleton.mp newSecond
      exact absurd same (apart first oldFirst).1
    · cases List.mem_singleton.mp newFirst
      exact absurd same.symm (apart second oldSecond).1
    · exact (List.mem_singleton.mp newFirst).trans (List.mem_singleton.mp newSecond).symm
  · intro first memberFirst second memberSecond same
    rcases List.mem_append.mp memberFirst with oldFirst | newFirst <;>
      rcases List.mem_append.mp memberSecond with oldSecond | newSecond
    · exact sound.id first oldFirst second oldSecond same
    · cases List.mem_singleton.mp newSecond
      exact absurd same (apart first oldFirst).2.1
    · cases List.mem_singleton.mp newFirst
      exact absurd same.symm (apart second oldSecond).2.1
    · exact (List.mem_singleton.mp newFirst).trans (List.mem_singleton.mp newSecond).symm
  · intro issued member
    rcases List.mem_append.mp member with old | new
    · exact sound.family issued old
    · cases List.mem_singleton.mp new
      cases tokenFamily with
      | none => exact unused.1
      | some family =>
          have nonempty : family ≠ "" := fun empty => named (by rw [empty])
          simp [newIssued, Store.newDoc, nonempty]
  · intro doc member
    rcases List.mem_append.mp member with old | new
    · obtain ⟨rawToken, issued⟩ := sound.stored doc old
      exact ⟨rawToken, List.mem_append_left _ issued⟩
    · cases List.mem_singleton.mp new
      exact ⟨random.rawToken, List.mem_append_right _ List.mem_cons_self⟩
  · refine List.nodup_append.mpr ⟨sound.nodup, by simp, ?_⟩
    intro doc old other new same
    cases List.mem_singleton.mp new
    obtain ⟨rawToken, issued⟩ := sound.stored doc old
    exact newDoc_fresh unused tenantId tokenFamily issued same
  · intro call member
    exact List.mem_append_left _ (sound.calls call member)

theorem mem_setPhase {state : State} {index : Nat} {phase : Phase} {place : Nat}
    {call : RefreshCall} (found : (state.setPhase index phase).calls[place]? = some call) :
    ∃ before, state.calls[place]? = some before ∧
      call = if index = place then { before with phase := phase } else before := by
  simp only [setPhase, List.getElem?_modify] at found
  obtain ⟨before, old, changed⟩ := Option.map_eq_some_iff.mp found
  exact ⟨before, old, changed.symm⟩

theorem sound_setPhase {state : State} (sound : Sound hasher state) (index : Nat)
    (phase : Phase) : Sound hasher (state.setPhase index phase) := by
  refine ⟨sound.hashed, sound.rawToken, sound.id, sound.family, sound.stored, sound.nodup, ?_⟩
  intro call member
  obtain ⟨place, found⟩ := List.mem_iff_getElem?.mp member
  obtain ⟨before, old, rfl⟩ := mem_setPhase found
  have issued := sound.calls before (List.mem_of_getElem? old)
  split <;> exact issued

theorem sound_of_sublist {state next : State} (sound : Sound hasher state)
    (calls : next.calls = state.calls) (issued : next.issued = state.issued)
    (kept : next.store.authTokens.Sublist state.store.authTokens) : Sound hasher next := by
  refine ⟨?_, ?_, ?_, ?_, ?_, kept.nodup sound.nodup, ?_⟩
  · exact issued ▸ sound.hashed
  · exact issued ▸ sound.rawToken
  · exact issued ▸ sound.id
  · exact issued ▸ sound.family
  · exact fun doc member => issued ▸ sound.stored doc (kept.subset member)
  · exact issued ▸ calls ▸ sound.calls

theorem sound_moved {state next : State} {event : TokenEvent} (sound : Sound hasher state)
    (moved : Moved hasher state event next) : Sound hasher next := by
  cases moved with
  | login tenantId unused => exact sound_create sound unused tenantId none (by simp)
  | rejected absent => exact sound
  | matched found =>
      refine { sound with calls := ?_ }
      intro call member
      rcases List.mem_append.mp member with old | new
      · exact sound.calls call old
      · cases List.mem_singleton.mp new
        exact (findVerified_sound sound found).2
  | @deleted index call found phase =>
      have removed : Sound hasher { state with
          store := state.store.deleteOne call.matchedDoc.id } :=
        sound_of_sublist sound rfl rfl List.eraseP_sublist
      exact sound_setPhase removed _ _
  | inserted found phase unused =>
      have issued := sound.calls _ (List.mem_of_getElem? found)
      have named := sound.family _ issued
      exact sound_setPhase (sound_create sound unused _ _ (by simpa using named)) _ _
  | removed takes calls issued kept => exact sound_of_sublist sound calls issued kept

/-! ## A token is exchanged once -/

/-- No raw token was exchanged by two calls. -/
def SingleUse (state : State) : Prop :=
  ∀ (i j : Nat) (first second : RefreshCall), state.calls[i]? = some first →
    state.calls[j]? = some second → first.phase = .rotated → second.phase = .rotated →
    first.rawToken = second.rawToken → i = j

/-- Each token family contains at most one stored token. -/
def OnePerFamily (state : State) : Prop :=
  ∀ family, (state.store.authTokens.filter fun doc =>
    decide (doc.tokenFamily = family)).length ≤ 1

/-- No refresh matches the token that another one in flight has matched. -/
def NoOverlap (hasher : PasswordHasher) (state : State) : TokenEvent → Prop
  | .find rawToken => ∀ doc ∈ state.store.findVerified hasher rawToken none,
      ∀ call ∈ state.calls, call.matchedDoc = doc → call.inFlight = false
  | _ => True

instance : ∀ (state : State) (event : TokenEvent), Decidable (NoOverlap hasher state event)
  | state, .find rawToken =>
      inferInstanceAs (Decidable (∀ doc ∈ state.store.findVerified hasher rawToken none,
        ∀ call ∈ state.calls, call.matchedDoc = doc → call.inFlight = false))
  | _, .login .. | _, .delete _ | _, .insert .. | _, .logout _ | _, .expire _ | _, .tick _ =>
      isTrue trivial

/-- The shape of the families without overlapping calls: a document is matched once,
a consumed one is gone, and beside a call in flight its family has nothing stored but
the document the call has matched. -/
structure Linear (state : State) : Prop where
  matchedOnce : ∀ (i j : Nat) (first second : RefreshCall), state.calls[i]? = some first →
    state.calls[j]? = some second → first.matchedDoc = second.matchedDoc → i = j
  consumed : ∀ call ∈ state.calls, call.phase ≠ .verified →
    call.matchedDoc ∉ state.store.authTokens
  inFlight : ∀ call ∈ state.calls, call.inFlight = true → ∀ doc ∈ state.store.authTokens,
    doc.tokenFamily = call.matchedDoc.tokenFamily → doc = call.matchedDoc
  oneInFlight : ∀ (i j : Nat) (first second : RefreshCall), state.calls[i]? = some first →
    state.calls[j]? = some second → first.inFlight = true → second.inFlight = true →
    first.matchedDoc.tokenFamily = second.matchedDoc.tokenFamily → i = j
  stored : ∀ doc ∈ state.store.authTokens, ∀ other ∈ state.store.authTokens,
    doc.tokenFamily = other.tokenFamily → doc = other

theorem linear_initial (now : Instant) : Linear (initial now) := by
  constructor <;> simp [initial]

theorem inFlight_of_phase {call : RefreshCall} {phase : Phase} (same : call.phase = phase) :
    call.inFlight = true ↔ phase ≠ .rotated := by
  simp only [RefreshCall.inFlight, same]
  cases phase <;> simp

theorem singleUse_of_linear {state : State} (sound : Sound hasher state)
    (linear : Linear state) : SingleUse state := by
  intro i j first second atI atJ _ _ same
  have issuedFirst := sound.calls first (List.mem_of_getElem? atI)
  have issuedSecond := sound.calls second (List.mem_of_getElem? atJ)
  have docs := congrArg Issued.doc (sound.rawToken _ issuedFirst _ issuedSecond same)
  exact linear.matchedOnce i j first second atI atJ docs

theorem onePerFamily_of_linear {state : State} (sound : Sound hasher state)
    (linear : Linear state) : OnePerFamily state := by
  intro family
  have nodup := sound.nodup.filter fun doc => decide (doc.tokenFamily = family)
  match shape : state.store.authTokens.filter fun doc => decide (doc.tokenFamily = family) with
  | [] => simp [shape]
  | [_] => simp [shape]
  | first :: second :: rest =>
      rw [shape] at nodup
      have kept : ∀ doc, doc ∈ first :: second :: rest →
          doc ∈ state.store.authTokens ∧ doc.tokenFamily = family := by
        intro doc member
        rw [← shape] at member
        simpa using List.mem_filter.mp member
      obtain ⟨memberFirst, familyFirst⟩ := kept first (by simp)
      obtain ⟨memberSecond, familySecond⟩ := kept second (by simp)
      have same := linear.stored first memberFirst second memberSecond
        (familyFirst.trans familySecond.symm)
      simp [same] at nodup

theorem linear_create {state : State} (sound : Sound hasher state) (linear : Linear state)
    {random : Random} (unused : state.Unused random) (tenantId : String)
    {tokenFamily : Option String} {family : String}
    (named : (state.store.newDoc hasher tenantId tokenFamily random).tokenFamily = family)
    (noneStored : ∀ doc ∈ state.store.authTokens, doc.tokenFamily ≠ family)
    (noneInFlight : ∀ call ∈ state.calls, call.inFlight = true →
      call.matchedDoc.tokenFamily ≠ family) :
    Linear (state.create hasher tenantId tokenFamily random) := by
  rw [create_eq]
  refine ⟨linear.matchedOnce, ?_, ?_, linear.oneInFlight, ?_⟩
  · intro call member phase present
    rcases List.mem_append.mp present with old | new
    · exact linear.consumed call member phase old
    · exact newDoc_fresh unused tenantId tokenFamily (sound.calls call member)
        (List.mem_singleton.mp new)
  · intro call member flying doc present same
    rcases List.mem_append.mp present with old | new
    · exact linear.inFlight call member flying doc old same
    · cases List.mem_singleton.mp new
      exact absurd (same.symm.trans named) (noneInFlight call member flying)
  · intro doc present other present' same
    rcases List.mem_append.mp present with old | new <;>
      rcases List.mem_append.mp present' with old' | new'
    · exact linear.stored doc old other old' same
    · cases List.mem_singleton.mp new'
      exact absurd (same.trans named) (noneStored doc old)
    · cases List.mem_singleton.mp new
      exact absurd (same.symm.trans named) (noneStored other old')
    · exact (List.mem_singleton.mp new).trans (List.mem_singleton.mp new').symm

theorem linear_of_sublist {state next : State} (linear : Linear state)
    (calls : next.calls = state.calls)
    (kept : next.store.authTokens.Sublist state.store.authTokens) : Linear next := by
  refine ⟨?_, ?_, ?_, ?_, ?_⟩
  · exact calls ▸ linear.matchedOnce
  · exact fun call member phase present =>
      linear.consumed call (calls ▸ member) phase (kept.subset present)
  · exact fun call member flying doc present =>
      linear.inFlight call (calls ▸ member) flying doc (kept.subset present)
  · exact calls ▸ linear.oneInFlight
  · exact fun doc present other present' =>
      linear.stored doc (kept.subset present) other (kept.subset present')

theorem linear_setPhase {state : State} {index : Nat} {call : RefreshCall} {phase : Phase}
    (linear : Linear state) (found : state.calls[index]? = some call)
    (flying : call.inFlight = true) (gone : call.matchedDoc ∉ state.store.authTokens) :
    Linear (state.setPhase index phase) := by
  -- a call in flight afterwards was in flight before
  have before : ∀ (place : Nat) (after : RefreshCall),
      (state.setPhase index phase).calls[place]? = some after → ∃ old,
        state.calls[place]? = some old ∧ after.matchedDoc = old.matchedDoc ∧
        (after.inFlight = true → old.inFlight = true) ∧
        (after.phase ≠ .verified → old.matchedDoc ∉ state.store.authTokens) := by
    intro place after there
    obtain ⟨old, entry, rfl⟩ := mem_setPhase there
    by_cases hit : index = place
    · subst hit
      cases Option.some.inj (found.symm.trans entry)
      simp only [if_true]
      exact ⟨call, found, rfl, fun _ => flying, fun _ => gone⟩
    · simp only [if_neg hit]
      exact ⟨old, entry, rfl, id, linear.consumed old (List.mem_of_getElem? entry)⟩
  refine ⟨?_, ?_, ?_, ?_, linear.stored⟩
  · intro i j first second atI atJ same
    obtain ⟨first', entryI, docI, _⟩ := before i first atI
    obtain ⟨second', entryJ, docJ, _⟩ := before j second atJ
    exact linear.matchedOnce i j first' second' entryI entryJ
      (docI.symm.trans (same.trans docJ))
  · intro after member unverified
    obtain ⟨place, there⟩ := List.mem_iff_getElem?.mp member
    obtain ⟨old, entry, doc, _, absent⟩ := before place after there
    exact doc ▸ absent unverified
  · intro after member flying' doc present same
    obtain ⟨place, there⟩ := List.mem_iff_getElem?.mp member
    obtain ⟨old, entry, sameDoc, wasFlying, _⟩ := before place after there
    rw [sameDoc] at same ⊢
    exact linear.inFlight old (List.mem_of_getElem? entry) (wasFlying flying') doc present same
  · intro i j first second atI atJ flyI flyJ same
    obtain ⟨first', entryI, docI, wasI, _⟩ := before i first atI
    obtain ⟨second', entryJ, docJ, wasJ, _⟩ := before j second atJ
    rw [docI, docJ] at same
    exact linear.oneInFlight i j first' second' entryI entryJ (wasI flyI) (wasJ flyJ) same

theorem not_mem_eraseP {α : Type} {items : List α} {item : α} {keep : α → Bool}
    (nodup : items.Nodup) (chosen : keep item = true)
    (only : ∀ other ∈ items, keep other = true → other = item) :
    item ∉ items.eraseP keep := by
  induction items with
  | nil => simp
  | cons head rest ih =>
      obtain ⟨fresh, nodup⟩ := List.nodup_cons.mp nodup
      by_cases first : keep head = true
      · rw [List.eraseP_cons_of_pos first, ← only head List.mem_cons_self first]
        exact fresh
      · rw [List.eraseP_cons_of_neg first]
        rintro (_ | ⟨_, later⟩)
        · exact first chosen
        · exact ih nodup (fun other member => only other (List.mem_cons_of_mem head member)) later

theorem not_mem_deleteOne {state : State} (sound : Sound hasher state) {doc : AuthTokenDoc}
    {rawToken : String} (issued : ⟨doc, rawToken⟩ ∈ state.issued) :
    doc ∉ (state.store.deleteOne doc.id).authTokens := by
  refine not_mem_eraseP sound.nodup (by simp) fun other member same => ?_
  obtain ⟨otherToken, issued'⟩ := sound.stored other member
  exact congrArg Issued.doc (sound.id _ issued' _ issued (by simpa using same))

theorem linear_matched {state : State} {rawToken : String} {doc : AuthTokenDoc}
    (linear : Linear state) (present : doc ∈ state.store.authTokens)
    (idle : ∀ call ∈ state.calls, call.matchedDoc = doc → call.inFlight = false) :
    Linear { state with calls := state.calls ++ [⟨rawToken, doc, .verified⟩] } := by
  have unmatched : ∀ call ∈ state.calls, call.matchedDoc ≠ doc := by
    intro call member same
    have notFlying := idle call member same
    refine linear.consumed call member (fun verified => ?_) (same ▸ present)
    simp [RefreshCall.inFlight, verified] at notFlying
  have entry : ∀ (place : Nat) (call : RefreshCall),
      (state.calls ++ [⟨rawToken, doc, .verified⟩])[place]? = some call →
      state.calls[place]? = some call ∨
        (place = state.calls.length ∧ call = ⟨rawToken, doc, .verified⟩) := by
    intro place call there
    exact Places.concat_source there
  refine ⟨?_, ?_, ?_, ?_, linear.stored⟩
  · intro i j first second atI atJ same
    rcases entry i first atI with oldI | ⟨rfl, rfl⟩ <;>
      rcases entry j second atJ with oldJ | ⟨rfl, rfl⟩
    · exact linear.matchedOnce i j first second oldI oldJ same
    · exact absurd same (unmatched first (List.mem_of_getElem? oldI))
    · exact absurd same.symm (unmatched second (List.mem_of_getElem? oldJ))
    · rfl
  · intro call member unverified
    rcases List.mem_append.mp member with old | new
    · exact linear.consumed call old unverified
    · cases List.mem_singleton.mp new
      exact absurd rfl unverified
  · intro call member flying other present' same
    rcases List.mem_append.mp member with old | new
    · exact linear.inFlight call old flying other present' same
    · cases List.mem_singleton.mp new
      exact linear.stored other present' doc present same
  · intro i j first second atI atJ flyI flyJ same
    rcases entry i first atI with oldI | ⟨rfl, rfl⟩ <;>
      rcases entry j second atJ with oldJ | ⟨rfl, rfl⟩
    · exact linear.oneInFlight i j first second oldI oldJ flyI flyJ same
    · have member := List.mem_of_getElem? oldI
      exact absurd (linear.inFlight first member flyI doc present same.symm).symm
        (unmatched first member)
    · have member := List.mem_of_getElem? oldJ
      exact absurd (linear.inFlight second member flyJ doc present same).symm
        (unmatched second member)
    · rfl

theorem linear_inserted {state : State} (sound : Sound hasher state) (linear : Linear state)
    {index : Nat} {call : RefreshCall} {random : Random}
    (found : state.calls[index]? = some call) (phase : call.phase = .deleted)
    (unused : state.Unused random) :
    Linear ((state.create hasher call.matchedDoc.tenantId (some call.matchedDoc.tokenFamily)
      random).setPhase index .rotated) := by
  have member := List.mem_of_getElem? found
  have flying : call.inFlight = true := (inFlight_of_phase phase).mpr (by simp)
  have gone := linear.consumed call member (by simp [phase])
  have named : call.matchedDoc.tokenFamily ≠ "" := sound.family _ (sound.calls call member)
  -- the call is over before its successor counts as stored
  have ended : Linear (state.setPhase index .rotated) := linear_setPhase linear found flying gone
  have same : (state.store.newDoc hasher call.matchedDoc.tenantId
      (some call.matchedDoc.tokenFamily) random).tokenFamily =
        call.matchedDoc.tokenFamily := by simp [Store.newDoc, named]
  refine linear_create (sound_setPhase sound index .rotated) ended unused
    call.matchedDoc.tenantId same ?_ ?_
  · intro doc present same
    exact gone (linear.inFlight call member flying doc present same ▸ present)
  · intro other member' flying' same
    obtain ⟨place, there⟩ := List.mem_iff_getElem?.mp member'
    obtain ⟨old, entry, rfl⟩ := mem_setPhase there
    by_cases hit : index = place
    · simp [hit, RefreshCall.inFlight] at flying'
    · rw [if_neg hit] at flying' same
      exact hit (linear.oneInFlight index place call old found entry flying flying' same.symm)

theorem linear_moved {state next : State} {event : TokenEvent} (sound : Sound hasher state)
    (linear : Linear state) (apart : NoOverlap hasher state event)
    (moved : Moved hasher state event next) : Linear next := by
  cases moved with
  | @login tenantId random unused =>
      have named : (state.store.newDoc hasher tenantId none random).tokenFamily =
          random.family := rfl
      refine linear_create sound linear unused tenantId named ?_ ?_
      · intro doc present same
        obtain ⟨rawToken, issued⟩ := sound.stored doc present
        exact (unused.2 _ issued).2.2 same
      · intro call member _ same
        exact (unused.2 _ (sound.calls call member)).2.2 same
  | rejected absent => exact linear
  | @matched rawToken doc found =>
      obtain ⟨present, issued⟩ := findVerified_sound sound found
      exact linear_matched linear present (apart doc found)
  | @deleted index call found phase =>
      have issued := sound.calls call (List.mem_of_getElem? found)
      have removed : Linear { state with store := state.store.deleteOne call.matchedDoc.id } :=
        linear_of_sublist linear rfl List.eraseP_sublist
      exact linear_setPhase removed found ((inFlight_of_phase phase).mpr (by simp))
        (not_mem_deleteOne sound issued)
  | inserted found phase unused => exact linear_inserted sound linear found phase unused
  | removed takes calls issued kept => exact linear_of_sublist linear calls kept

/-- In a run without overlapping refreshes of one token, every token is exchanged at
most once, and every family has at most one stored token, in every state. -/
theorem singleUse_of_noOverlap (hasher : PasswordHasher) (now : Instant)
    (events : List TokenEvent)
    (apart : Along (step hasher) (NoOverlap hasher) (initial now) events) :
    Always (step hasher) (fun state => SingleUse state ∧ OnePerFamily state) (initial now)
      events := by
  have kept := always_of_along (fun state => Sound hasher state ∧ Linear state)
    (fun state event next ⟨sound, linear⟩ met run =>
      ⟨sound_moved sound (step_moved run), linear_moved sound linear met (step_moved run)⟩)
    ⟨sound_initial now, linear_initial now⟩ apart
  exact kept.mono fun state ⟨sound, linear⟩ =>
    ⟨singleUse_of_linear sound linear, onePerFamily_of_linear sound linear⟩

/-- The random values of the `n`-th token of a run. -/
def drawn (n : Nat) : Random :=
  ⟨"raw" ++ toString n, "salt", "family" ++ toString n, "id" ++ toString n⟩

/-- A token and its successor are exchanged one after the other. -/
theorem singleUse_rotated_twice :
    Always (step plainHasher) (fun state => SingleUse state ∧ OnePerFamily state) (initial 0)
      [.login "t" (drawn 0), .find "raw0", .delete 0, .insert 0 (drawn 1), .find "raw1",
        .delete 1, .insert 1 (drawn 2)] :=
  singleUse_of_noOverlap plainHasher 0 _ (by decide)

/-- Two refreshes of one token overlap: both succeed, and the family forks. -/
theorem singleUse_fails :
    ¬ ∀ (hasher : PasswordHasher) (now : Instant) (events : List TokenEvent),
      Always (step hasher) (fun state => SingleUse state ∧ OnePerFamily state) (initial now)
        events := by
  intro always
  have shape : (exec (step plainHasher) (initial 0)
      [.login "t" (drawn 0), .find "raw0", .find "raw0", .delete 0, .delete 1,
        .insert 0 (drawn 1), .insert 1 (drawn 2)]).map (fun state =>
      (state.store.authTokens.filter fun doc => decide (doc.tokenFamily = "family0")).length) =
        some 2 := by decide
  obtain ⟨final, run, stored⟩ := Option.map_eq_some_iff.mp shape
  have single := ((always plainHasher 0 _).last run).2 "family0"
  omega

end State

end LiveChat.Repositories.AuthTokenRepo
