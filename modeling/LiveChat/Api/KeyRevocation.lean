import LiveChat.Api.TokenRedemption

/-!
# What a revocation cuts off

After `revoke` has returned `True` nobody can look the key up any more.  Its authority
lives on in the tokens that were stored before, and in those that are stored by a call
whose `find` had come to the key before, even if `get_by_raw_key` returned it only then;
`CutOff` follows both.
-/

set_option autoImplicit false

namespace LiveChat.Api

open LiveChat.Core
open LiveChat.Db
open LiveChat.Foundation
open LiveChat.Foundation.TransitionSystem
open LiveChat.Repositories
open LiveChat.Api.Chat (Authority Credential Resolved Socket)
open LiveChat.Api.Tokens (Access TokenCall TokenPhase)

/-- The key that the `find` of the call has come to, and that it goes on with. -/
def Tokens.TokenCall.verified (call : TokenCall) : Option APIKeyDoc :=
  match call.phase with
  | .touching key | .configuring key _ => some key
  | .timing access _ | .peeking access _ _ | .consuming access _ _ _ | .storing access _ _ =>
      some access.key
  | .lookingUp _ | .answered _ _ | .failed _ | .raised => none

namespace Service

/-! ## The property -/

/-- The `find` of the call had come to the key when the key was revoked. -/
def VerifiedBefore (revoked : Service) (keyId : String) (call : Nat) : Prop :=
  ∃ early, revoked.tokenCalls[call]? = some early ∧
    ∃ key, early.verified = some key ∧ key.id = keyId

/-- The token was stored before the key was revoked, or by a call that had found the key then. -/
def MintedBefore (revoked : Service) (keyId rawToken : String) (issue : Issue) : Prop :=
  revoked.issued.lookup rawToken = some issue ∨ VerifiedBefore revoked keyId issue.call

/-- What is left of the key's authority for calls that start after the revocation. -/
structure LosesAuthority (revoked final : Service) (keyId : String) : Prop where
  secretKeys : ∀ place call, revoked.tokenCalls.length ≤ place →
    final.tokenCalls[place]? = some call → ∀ key ∈ call.verified, APIKeyDoc.id key ≠ keyId
  handshakes : ∀ place socket, revoked.sockets.length ≤ place →
    final.sockets[place]? = some socket → ∀ resolved ∈ socket.resolved,
      Resolved.apiKeyId resolved = keyId →
        ∃ rawToken issue, socket.handshake.credential = .ok (.token rawToken) ∧
          final.issued.lookup rawToken = some issue ∧
          MintedBefore revoked keyId rawToken issue

/-! ## Where a key's id ends up -/

/-- The ids of the keys are distinct, and ids are handed on as they are. -/
structure Credited (service : Service) : Prop where
  distinct : (service.rest.apiKeys.map APIKeyDoc.id).Nodup
  payloads : ∀ call ∈ service.tokenCalls, ∀ access payload consumed,
    call.phase = .storing access payload consumed → payload.apiKeyId = access.key.id
  resolved : ∀ socket ∈ service.sockets, ∀ resolved ∈ socket.resolved,
    ∃ authority, socket.authority = some authority ∧
      Resolved.apiKeyId resolved = authority.apiKeyId

theorem credited_initial (now : Instant) (clock : Clock) : Credited (initial now clock) :=
  ⟨List.nodup_nil, fun _ member => absurd member List.not_mem_nil,
    fun _ member => absurd member List.not_mem_nil⟩

variable {hasher : AuthTokenRepo.PasswordHasher}

theorem distinct_moved {rest next : Rest} {event : RestEvent}
    (moved : Rest.Moved hasher rest event next)
    (distinct : (rest.apiKeys.map APIKeyDoc.id).Nodup) :
    (next.apiKeys.map APIKeyDoc.id).Nodup := by
  cases moved with
  | insertedKey found writing fresh =>
      simp only [Rest.setCall, List.map_append, List.map_cons, List.map_nil]
      refine List.Nodup.append distinct (List.nodup_singleton _) ?_
      intro id taken new
      obtain ⟨doc, member, rfl⟩ := List.mem_map.mp taken
      exact fresh doc member (List.mem_singleton.mp new)
  | revokedKey found writing answer =>
      simp only [Rest.setCall, APIKeyRepo.revoke_ids]
      exact distinct
  | _ => exact distinct

theorem key_kept {rest next : Rest} {event : RestEvent}
    (moved : Rest.Moved hasher rest event next) {keyId : String}
    (member : keyId ∈ rest.apiKeys.map APIKeyDoc.id) :
    keyId ∈ next.apiKeys.map APIKeyDoc.id := by
  cases moved with
  | insertedKey found writing fresh =>
      simp only [Rest.setCall, List.map_append]
      exact List.mem_append_left _ member
  | revokedKey found writing answer =>
      simp only [Rest.setCall, APIKeyRepo.revoke_ids]
      exact member
  | _ => exact member

theorem resolved_change {service next : Service} {socket after : Socket}
    (before : ∀ resolved ∈ socket.resolved, ∃ authority, socket.authority = some authority ∧
      Resolved.apiKeyId resolved = authority.apiKeyId)
    (presents : Presents socket) (change : SocketChange hasher service next socket after)
    (unresolved : socket.authority = none → socket.resolved = none) :
    ∀ resolved ∈ after.resolved, ∃ authority, after.authority = some authority ∧
      Resolved.apiKeyId resolved = authority.apiKeyId := by
  intro resolved member
  cases change with
  | turned turn =>
      cases turn with
      | keyTouched phase =>
          have none := unresolved (presents.touching _ phase).2
          cases none.symm.trans member
      | unlimited authorized phase stored free =>
          cases member
          exact ⟨_, authorized, rfl⟩
      | within authorized phase room =>
          cases member
          exact ⟨_, authorized, rfl⟩
      | _ => exact before resolved member
  | redeemed phase live =>
      have none := unresolved (presents.redeeming _ phase).2
      cases none.symm.trans member
  | _ => exact before resolved member

theorem credited_moved {service next : Service} {event : ServiceEvent} (chained : Chained service)
    (credited : Credited service) (moved : Moved hasher service event next) : Credited next := by
  refine ⟨?_, ?_, ?_⟩
  · rcases rest_moved moved with same | ⟨_, restMoved⟩
    · rw [same]
      exact credited.distinct
    · exact distinct_moved restMoved credited.distinct
  · intro call member access payload consumed storing
    obtain ⟨place, found⟩ := List.mem_iff_getElem?.mp member
    rcases (calls_moved moved).source found with old | ⟨_, start⟩ | ⟨before, there, _, change⟩
    · exact credited.payloads call (List.mem_of_getElem? old) access payload consumed storing
    · rw [storing] at start
      rcases start with ⟨_, same⟩ | ⟨_, same⟩
      · cases same
      · cases same
    · rw [storing] at change
      cases change with
      | turned turn =>
          cases turn with
          | minting returned => rfl
      | consumed live => rfl
  · intro socket member
    obtain ⟨place, found⟩ := List.mem_iff_getElem?.mp member
    rcases (sockets_moved moved).source found with old | ⟨_, handshake, rfl⟩ |
      ⟨before, there, change⟩
    · exact credited.resolved socket (List.mem_of_getElem? old)
    · intro resolved given
      cases given
    · have listed := List.mem_of_getElem? there
      refine resolved_change (credited.resolved before listed) (chained.presents before listed)
        change fun unauthorized => ?_
      cases held : before.resolved with
      | none => rfl
      | some resolved =>
          obtain ⟨authority, authorized, _⟩ := credited.resolved before listed resolved held
          cases authorized.symm.trans unauthorized

/-! ## After the revocation -/

/-- Where the id of the revoked key can still be, from the revocation on. -/
structure CutOff (revoked : Service) (keyId : String) (service : Service) : Prop where
  exists_key : keyId ∈ service.rest.apiKeys.map APIKeyDoc.id
  unusable : ∀ doc ∈ service.rest.apiKeys, doc.id = keyId → doc.revoked = true
  tokenCalls : ∀ place call, service.tokenCalls[place]? = some call → ∀ key,
    call.verified = some key → key.id = keyId → VerifiedBefore revoked keyId place
  issued : ∀ rawToken issue, service.issued.lookup rawToken = some issue →
    issue.payload.apiKeyId = keyId → MintedBefore revoked keyId rawToken issue
  sockets : ∀ place socket, revoked.sockets.length ≤ place →
    service.sockets[place]? = some socket → ∀ authority, socket.authority = some authority →
      authority.apiKeyId = keyId →
        ∃ rawToken issue, socket.handshake.credential = .ok (.token rawToken) ∧
          service.issued.lookup rawToken = some issue ∧
          MintedBefore revoked keyId rawToken issue
  touching : ∀ place socket, revoked.sockets.length ≤ place →
    service.sockets[place]? = some socket → ∀ keyDoc, socket.phase = .touching keyDoc →
      keyDoc.id ≠ keyId

theorem other_of_verified {revoked service : Service} {keyId : String}
    (cut : CutOff revoked keyId service) {rawKey : String} {doc : APIKeyDoc}
    (verified : APIKeyRepo.getByRawKey hasher service.rest.apiKeys rawKey = .ok (some doc)) :
    doc.id ≠ keyId := by
  obtain ⟨member, usable, _⟩ := APIKeyRepo.getByRawKey_some verified
  intro same
  cases usable.symm.trans (cut.unusable doc member same)

theorem verified_change {service next : Service} {call : TokenCall} {phase : TokenPhase}
    {key : APIKeyDoc} (change : TokenChange hasher service next call phase)
    (has : TokenCall.verified { call with phase := phase } = some key) :
    call.verified = some key ∨ ∃ rawKey,
      APIKeyRepo.getByRawKey hasher service.rest.apiKeys rawKey = .ok (some key) := by
  cases change with
  | turned turn =>
      cases turn with
      | failed early refusal => cases has
      | raised => cases has
      | keyFound verified =>
          cases has
          exact Or.inr ⟨_, verified⟩
      | _ => exact Or.inl has
  | keyVerified secret asked => exact Or.inl has
  | consumed live => exact Or.inl has
  | stored response => cases has

theorem unusable_moved {service next : Service} {event : ServiceEvent} {revoked : Service}
    {keyId : String} (cut : CutOff revoked keyId service)
    (moved : Moved hasher service event next) :
    keyId ∈ next.rest.apiKeys.map APIKeyDoc.id ∧
      ∀ doc ∈ next.rest.apiKeys, doc.id = keyId → doc.revoked = true := by
  rcases rest_moved moved with same | ⟨_, restMoved⟩
  · rw [same]
    exact ⟨cut.exists_key, cut.unusable⟩
  · refine ⟨key_kept restMoved cut.exists_key, fun doc member same => ?_⟩
    rcases Rest.key_moved restMoved member with ⟨before, old, id, _, _, kept⟩ |
      ⟨_, _, _, _, _, _, _, fresh⟩
    · exact kept (cut.unusable before old (id.symm.trans same))
    · obtain ⟨taken, old, id⟩ := List.mem_map.mp cut.exists_key
      exact absurd (id.trans same.symm) (fresh taken old)

theorem cutCalls_moved {service next : Service} {event : ServiceEvent} {revoked : Service}
    {keyId : String} (cut : CutOff revoked keyId service)
    (moved : Moved hasher service event next) :
    ∀ place call, next.tokenCalls[place]? = some call → ∀ key, call.verified = some key →
      key.id = keyId → VerifiedBefore revoked keyId place := by
  intro place call found key has same
  rcases (calls_moved moved).source found with old | ⟨_, start⟩ | ⟨before, there, _, change⟩
  · exact cut.tokenCalls place call old key has same
  · have none : call.verified = none := by
      rcases start with ⟨_, phase⟩ | ⟨_, phase⟩
      · simp only [TokenCall.verified, phase]
      · simp only [TokenCall.verified, phase]
    cases none.symm.trans has
  · rcases verified_change change has with kept | ⟨rawKey, verified⟩
    · exact cut.tokenCalls place before there key kept same
    · exact absurd same (other_of_verified cut verified)

theorem cutIssued_moved {service next : Service} {event : ServiceEvent} {revoked : Service}
    {keyId : String} (credited : Credited service) (cut : CutOff revoked keyId service)
    (moved : Moved hasher service event next) :
    ∀ rawToken issue, next.issued.lookup rawToken = some issue →
      issue.payload.apiKeyId = keyId → MintedBefore revoked keyId rawToken issue := by
  cases moved with
  | @stored index newToken request access payload consumed found fresh =>
      intro rawToken issue listed same
      by_cases new : rawToken = newToken
      · subst new
        simp only [setToken, storeToken, AList.lookup_insert] at listed
        cases listed
        have own := credited.payloads _ (List.mem_of_getElem? found) access payload consumed rfl
        exact Or.inr (cut.tokenCalls index _ found access.key rfl (own.symm.trans same))
      · simp only [setToken, storeToken, AList.lookup_insert_ne new] at listed
        exact cut.issued rawToken issue listed same
  | _ => exact cut.issued

theorem cutSockets_moved {service next : Service} {event : ServiceEvent} {revoked : Service}
    {keyId : String} (chained : Chained service) (cut : CutOff revoked keyId service)
    (moved : Moved hasher service event next) :
    ∀ place socket, revoked.sockets.length ≤ place → next.sockets[place]? = some socket →
      ∀ authority, socket.authority = some authority → authority.apiKeyId = keyId →
        ∃ rawToken issue, socket.handshake.credential = .ok (.token rawToken) ∧
          next.issued.lookup rawToken = some issue ∧
          MintedBefore revoked keyId rawToken issue := by
  have kept : ∀ place socket, revoked.sockets.length ≤ place →
      service.sockets[place]? = some socket → ∀ authority, socket.authority = some authority →
      authority.apiKeyId = keyId →
        ∃ rawToken issue, socket.handshake.credential = .ok (.token rawToken) ∧
          next.issued.lookup rawToken = some issue ∧
          MintedBefore revoked keyId rawToken issue := by
    intro place socket later found authority authorized same
    obtain ⟨rawToken, issue, presented, listed, before⟩ :=
      cut.sockets place socket later found authority authorized same
    exact ⟨rawToken, issue, presented, issued_moved moved listed, before⟩
  intro place socket later found authority authorized same
  rcases (sockets_moved moved).source found with old | ⟨_, handshake, rfl⟩ | ⟨before, there, change⟩
  · exact kept place socket later old authority authorized same
  · cases authorized
  · cases change with
    | turned turn =>
        cases turn with
        | keyTouched phase =>
            cases authorized
            exact absurd same (cut.touching place before later there _ phase)
        | _ => exact kept place before later there authority authorized same
    | redeemed phase live =>
        cases authorized
        obtain ⟨presented, _⟩ :=
          (chained.presents before (List.mem_of_getElem? there)).redeeming _ phase
        obtain ⟨issue, listed, rfl⟩ := issued_of_live chained live
        exact ⟨_, issue, presented, issued_moved moved listed, cut.issued _ issue listed same⟩
    | _ => exact kept place before later there authority authorized same

theorem cutTouching_moved {service next : Service} {event : ServiceEvent} {revoked : Service}
    {keyId : String} (cut : CutOff revoked keyId service)
    (moved : Moved hasher service event next) :
    ∀ place socket, revoked.sockets.length ≤ place → next.sockets[place]? = some socket →
      ∀ keyDoc, socket.phase = .touching keyDoc → keyDoc.id ≠ keyId := by
  intro place socket later found keyDoc phase
  rcases (sockets_moved moved).source found with old | ⟨_, handshake, rfl⟩ | ⟨before, there, change⟩
  · exact cut.touching place socket later old keyDoc phase
  · exact absurd phase (Chat.accept_untouched handshake keyDoc)
  · cases change with
    | turned turn =>
        cases turn with
        | keyFound lookup verified =>
            cases phase
            exact other_of_verified cut verified
        | _ => cases phase
    | limited authorized waits => rcases waits with ⟨_, _, rfl⟩ | ⟨_, rfl⟩ <;> cases phase
    | _ => cases phase

theorem cutOff_moved {service next : Service} {event : ServiceEvent} {revoked : Service}
    {keyId : String} (chained : Chained service) (credited : Credited service)
    (cut : CutOff revoked keyId service) (moved : Moved hasher service event next) :
    CutOff revoked keyId next where
  exists_key := (unusable_moved cut moved).1
  unusable := (unusable_moved cut moved).2
  tokenCalls := cutCalls_moved cut moved
  issued := cutIssued_moved credited cut moved
  sockets := cutSockets_moved chained cut moved
  touching := cutTouching_moved cut moved

/-! ## The revocation -/

/-- `revoke` returned `True`. -/
theorem cutOff_revoked {service revoked : Service} {index : Nat} {random : APIKeyRepo.Random}
    {call : RestCall} {keyId : String} (credited : Credited service)
    (found : service.rest.calls[index]? = some call)
    (writing : call.phase = .writing (.revokeKey keyId))
    (stepped : service.step hasher (.rest (.write index random)) = some revoked)
    (returned : revoked.rest.calls[index]? = some { call with phase := .written }) :
    CutOff revoked keyId revoked := by
  have deleted : keyId ∈ revoked.rest.apiKeys.map APIKeyDoc.id ∧
      ∀ doc ∈ revoked.rest.apiKeys, doc.id = keyId → doc.revoked = true := by
    cases step_moved stepped with
    | @rested event rest quiet restMoved =>
        cases restMoved with
        | insertedProject there other run =>
            cases Option.some.inj (found.symm.trans there)
            cases writing.symm.trans other
        | updatedProject there other run =>
            cases Option.some.inj (found.symm.trans there)
            cases writing.symm.trans other
        | insertedKey there other fresh =>
            cases Option.some.inj (found.symm.trans there)
            cases writing.symm.trans other
        | changedTenants identified =>
            -- no call changed its phase
            have same := Option.some.inj (found.symm.trans returned)
            rw [same] at writing
            cases writing
        | revokedKey there same answer =>
            cases Option.some.inj (found.symm.trans there)
            cases same.symm.trans writing
            rcases Places.modify_source returned with ⟨elsewhere, _⟩ | ⟨_, _, _, shape⟩
            · exact absurd rfl elsewhere
            · have written := congrArg RestCall.phase shape
              rw [answer] at written
              split at written
              · rename_i modified
                obtain ⟨known, unusable⟩ :=
                  APIKeyRepo.revoke_modified credited.distinct modified
                refine ⟨?_, unusable⟩
                simp only [Rest.setCall, APIKeyRepo.revoke_ids]
                exact known
              · cases written
  refine ⟨deleted.1, deleted.2, ?_, ?_, ?_, ?_⟩
  · intro place other there key has same
    exact ⟨other, there, key, has, same⟩
  · intro rawToken issue listed _
    exact Or.inl listed
  · intro place socket later there
    have inside := (List.getElem?_eq_some_iff.mp there).1
    omega
  · intro place socket later there
    have inside := (List.getElem?_eq_some_iff.mp there).1
    omega

/-- After `revoke` has returned `True`, no call that starts later looks the key up, and a
handshake that starts later has its authority only from a token: one that was stored before, or
one of a call whose `find` had come to the key before. -/
theorem revoked_losesAuthority (hasher : AuthTokenRepo.PasswordHasher) (now : Instant)
    (clock : Clock) (front back : List ServiceEvent) (service revoked final : Service)
    (index : Nat) (random : APIKeyRepo.Random) (call : RestCall) (keyId : String)
    (before : exec (step hasher) (initial now clock) front = some service)
    (found : service.rest.calls[index]? = some call)
    (writing : call.phase = .writing (.revokeKey keyId))
    (stepped : service.step hasher (.rest (.write index random)) = some revoked)
    (returned : revoked.rest.calls[index]? = some { call with phase := .written })
    (after : exec (step hasher) revoked back = some final) :
    LosesAuthority revoked final keyId := by
  have early : Chained service ∧ Credited service := by
    refine exec_invariant (fun service => Chained service ∧ Credited service) ?_
      ⟨chained_initial now clock, credited_initial now clock⟩ before
    rintro service event next ⟨chained, credited⟩ run
    exact ⟨chained_moved chained (step_moved run), credited_moved chained credited (step_moved run)⟩
  have late : Chained final ∧ Credited final ∧ CutOff revoked keyId final := by
    refine exec_invariant
      (fun service => Chained service ∧ Credited service ∧ CutOff revoked keyId service) ?_
      ⟨chained_moved early.1 (step_moved stepped),
        credited_moved early.1 early.2 (step_moved stepped),
        cutOff_revoked early.2 found writing stepped returned⟩ after
    rintro service event next ⟨chained, credited, cut⟩ run
    have moved := step_moved run
    exact ⟨chained_moved chained moved, credited_moved chained credited moved,
      cutOff_moved chained credited cut moved⟩
  obtain ⟨_, credited, cut⟩ := late
  constructor
  · intro place call later there key has same
    obtain ⟨earlier, inside, _⟩ := cut.tokenCalls place call there key has same
    have bound := (List.getElem?_eq_some_iff.mp inside).1
    omega
  · intro place socket later there resolved has same
    obtain ⟨authority, authorized, id⟩ :=
      credited.resolved socket (List.mem_of_getElem? there) resolved has
    exact cut.sockets place socket later there authority authorized (id.symm.trans same)

def revoking : RestCall :=
  ⟨{ id := "t", name := "Tenant", email := "t@example.com" }, .revokeKey "p" "k",
    .writing (.revokeKey "k")⟩

def revokeKey : List ServiceEvent :=
  [.rest (.authenticate "t" (.revokeKey "p" "k")), .rest (.read 2)]

def revokeWrite : ServiceEvent := .rest (.write 2 (Rest.sampleRandom ""))

def tokenHandshake : List ServiceEvent :=
  [.accept { token := some "token" }, .socketStep 0 "", .socketStep 0 "", .socketStep 0 "",
    .rest (.repo (.redisGet 1)), .socketStep 0 "", .socketStep 0 "", .socketStep 0 ""]

/-- The revocation returns `True`, and the handshake after it resolves to the revoked key. -/
theorem revoked_run : ∃ service revoked final socket resolved,
    exec (step AuthTokenRepo.plainHasher) (initial 0 ⟨0, 0⟩) (mintToken ++ revokeKey) =
      some service ∧
    service.rest.calls[2]? = some revoking ∧
    service.step AuthTokenRepo.plainHasher revokeWrite = some revoked ∧
    revoked.rest.calls[2]? = some { revoking with phase := .written } ∧
    revoked.sockets.length = 0 ∧
    exec (step AuthTokenRepo.plainHasher) revoked tokenHandshake = some final ∧
    final.sockets[0]? = some socket ∧ socket.resolved = some resolved ∧
    resolved.apiKeyId = "k" := by
  have front : (exec (step AuthTokenRepo.plainHasher) (initial 0 ⟨0, 0⟩)
      (mintToken ++ revokeKey)).map (fun service => service.rest.calls[2]?) =
        some (some revoking) := rfl
  obtain ⟨service, before, found⟩ := Option.map_eq_some_iff.mp front
  have middle : (exec (step AuthTokenRepo.plainHasher) (initial 0 ⟨0, 0⟩)
      ((mintToken ++ revokeKey) ++ [revokeWrite])).map (fun revoked =>
        (revoked.rest.calls[2]?, revoked.sockets.length)) =
        some (some { revoking with phase := .written }, 0) := rfl
  obtain ⟨revoked, until_revoked, look⟩ := Option.map_eq_some_iff.mp middle
  obtain ⟨returned, unconnected⟩ := Prod.mk.inj look
  have whole : (exec (step AuthTokenRepo.plainHasher) (initial 0 ⟨0, 0⟩)
      (((mintToken ++ revokeKey) ++ [revokeWrite]) ++ tokenHandshake)).map (fun final =>
        (final.sockets[0]?).map fun socket => socket.resolved.map Resolved.apiKeyId) =
        some (some (some "k")) := by decide
  obtain ⟨final, run, seen⟩ := Option.map_eq_some_iff.mp whole
  obtain ⟨socket, connected, answer⟩ := Option.map_eq_some_iff.mp seen
  obtain ⟨resolved, has, id⟩ := Option.map_eq_some_iff.mp answer
  rw [exec_append, until_revoked] at run
  rw [exec_append, before] at until_revoked
  obtain ⟨next, stepped, rest⟩ := exec_cons_some until_revoked
  cases rest
  exact ⟨service, revoked, final, socket, resolved, before, found, stepped, returned, unconnected,
    run, connected, has, id⟩

theorem revoked_losesAuthority_token : ∃ revoked final,
    exec (step AuthTokenRepo.plainHasher) revoked tokenHandshake = some final ∧
      LosesAuthority revoked final "k" := by
  obtain ⟨service, revoked, final, _, _, before, found, stepped, returned, _, after, _⟩ :=
    revoked_run
  exact ⟨revoked, final, after,
    revoked_losesAuthority AuthTokenRepo.plainHasher 0 ⟨0, 0⟩ _ tokenHandshake service revoked
      final 2 (Rest.sampleRandom "") revoking "k" before found rfl stepped returned after⟩

/-- A token that was minted before the revocation is redeemed after it. -/
theorem revoked_cutsOff_fails :
    ¬ ∀ (hasher : AuthTokenRepo.PasswordHasher) (now : Instant) (clock : Clock)
      (front back : List ServiceEvent) (service revoked final : Service) (index : Nat)
      (random : APIKeyRepo.Random) (call : RestCall) (keyId : String),
      exec (step hasher) (initial now clock) front = some service →
      service.rest.calls[index]? = some call → call.phase = .writing (.revokeKey keyId) →
      service.step hasher (.rest (.write index random)) = some revoked →
      revoked.rest.calls[index]? = some { call with phase := .written } →
      exec (step hasher) revoked back = some final →
      ∀ place socket, revoked.sockets.length ≤ place → final.sockets[place]? = some socket →
        ∀ resolved ∈ socket.resolved, Resolved.apiKeyId resolved ≠ keyId := by
  intro cutsOff
  obtain ⟨service, revoked, final, socket, resolved, before, found, stepped, returned,
    unconnected, after, connected, has, id⟩ := revoked_run
  exact cutsOff AuthTokenRepo.plainHasher 0 ⟨0, 0⟩ _ tokenHandshake service revoked final 2
    (Rest.sampleRandom "") revoking "k" before found rfl stepped returned after 0 socket
    (by rw [unconnected]) connected resolved has id

end Service

end LiveChat.Api
