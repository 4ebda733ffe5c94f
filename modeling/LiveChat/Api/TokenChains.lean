import LiveChat.Api.ServiceSteps
import LiveChat.Foundation.LinearTickets
import LiveChat.Foundation.TransitionSystem

/-!
# Ephemeral tokens are linear

A token is a ticket whose origin is the token that its chain of rotations began with.  It
is held by Redis, by a rotation that has consumed it and has not stored the next one, or
by the handshake that redeemed it, and by one of them only: the scripted `GET` and `DEL`
hands it over in one command.
-/

set_option autoImplicit false

namespace LiveChat.Api

open LiveChat.Core
open LiveChat.Db
open LiveChat.Foundation
open LiveChat.Foundation.LinearTickets
open LiveChat.Foundation.TransitionSystem
open LiveChat.Repositories
open LiveChat.Api.Chat (Authority Credential Socket SocketPhase)
open LiveChat.Api.Tokens (Access TokenCall TokenPhase)

/-- The token that a rotation has consumed and not replaced yet. -/
def Tokens.TokenCall.consumed (call : TokenCall) : Option String :=
  match call.phase with
  | .storing _ _ consumed => consumed.map Prod.fst
  | _ => none

/-- The token that a handshake redeemed. -/
def Chat.Socket.redeemed (socket : Socket) : Option String :=
  match socket.handshake.credential, socket.authority with
  | .ok (.token rawToken), some _ => some rawToken
  | _, _ => none

namespace Service

/-! ## The property -/

def rotating (service : Service) : List String := service.tokenCalls.filterMap TokenCall.consumed

def redeemedTokens (service : Service) : List String := service.sockets.filterMap Socket.redeemed

/-- The live tokens of a chain, its rotations in flight and its redemptions. -/
def chainCount (service : Service) (origin : String) : Nat :=
  heldOf service.originOf origin (service.redis.ephemeralTokens.liveKeys service.now) +
    heldOf service.originOf origin service.rotating +
    heldOf service.originOf origin service.redeemedTokens

/-- Every token of a chain grants what the first one does. -/
def Carried (service : Service) : Prop :=
  ∀ rawToken issue, service.issued.lookup rawToken = some issue →
    ∃ original, service.issued.lookup issue.origin = some original ∧
      issue.payload.projectId = original.payload.projectId ∧
      issue.payload.metadata = original.payload.metadata

structure TokensLinear (service : Service) : Prop where
  atMostOne : ∀ origin, service.chainCount origin ≤ 1
  carried : service.Carried
  /-- What Redis holds of a token is what was issued. -/
  stored : ∀ rawToken entry, service.redis.ephemeralTokens.lookup rawToken = some entry →
    ∃ issue, service.issued.lookup rawToken = some issue ∧
      entry = ⟨issue.payload, some issue.expiresAt⟩

/-! ## The invariant -/

def held (service : Service) : List String :=
  service.redis.ephemeralTokens.keys ++ service.rotating ++ service.redeemedTokens

/-- A rotation that has read its token goes on with what was issued. -/
def RotatesIssued (service : Service) : TokenPhase → Prop
  | .consuming access currentToken _ oldPayload =>
      oldPayload.projectId = access.config.projectId ∧
        ∃ issue, service.issued.lookup currentToken = some issue ∧ issue.payload = oldPayload
  | .storing _ payload consumed =>
      ∀ rotated ∈ consumed, ∃ issue, service.issued.lookup (Prod.fst rotated) = some issue ∧
        payload.projectId = issue.payload.projectId ∧
        payload.metadata = issue.payload.metadata
  | _ => True

/-- A handshake works on the credential that it presented. -/
structure Presents (socket : Socket) : Prop where
  redeeming : ∀ rawToken, socket.phase = .redeeming rawToken →
    socket.handshake.credential = .ok (.token rawToken) ∧ socket.authority = none
  lookingUp : ∀ rawKey, socket.phase = .lookingUp rawKey →
    socket.handshake.credential = .ok (.apiKey rawKey) ∧ socket.authority = none
  touching : ∀ keyDoc, socket.phase = .touching keyDoc →
    (∃ rawKey, socket.handshake.credential = .ok (.apiKey rawKey)) ∧ socket.authority = none

structure Chained (service : Service) : Prop where
  linear : Linear service.originOf service.held
  known : ∀ rawToken ∈ service.held, (service.issued.lookup rawToken).isSome
  carried : service.Carried
  stored : ∀ rawToken entry, service.redis.ephemeralTokens.lookup rawToken = some entry →
    ∃ issue, service.issued.lookup rawToken = some issue ∧
      entry = ⟨issue.payload, some issue.expiresAt⟩
  rotations : ∀ call ∈ service.tokenCalls, service.RotatesIssued call.phase
  presents : ∀ socket ∈ service.sockets, Presents socket

theorem chained_initial (now : Instant) (clock : Clock) : Chained (initial now clock) := by
  refine ⟨linear_nil, fun rawToken member => absurd member List.not_mem_nil, ?_, ?_,
    fun call member => absurd member List.not_mem_nil,
    fun socket member => absurd member List.not_mem_nil⟩
  · intro rawToken issue found
    cases found
  · intro rawToken entry found
    cases found

theorem tokensLinear_of_chained {service : Service} (chained : Chained service) :
    service.TokensLinear := by
  refine ⟨fun origin => ?_, chained.carried, chained.stored⟩
  have live : Linear service.originOf (service.redis.ephemeralTokens.liveKeys service.now ++
      service.rotating ++ service.redeemedTokens) := by
    apply chained.linear.sublist
    exact ((ExpiringStore.liveKeys_sublist _ _).append_right _).append_right _
  have counted := live.heldOf_le_one origin
  rw [heldOf_append, heldOf_append] at counted
  exact counted

/-! ## Issued tokens stay as they are -/

variable {hasher : AuthTokenRepo.PasswordHasher}

theorem issued_moved {service next : Service} {event : ServiceEvent}
    (moved : Moved hasher service event next) {rawToken : String} {issue : Issue}
    (found : service.issued.lookup rawToken = some issue) :
    next.issued.lookup rawToken = some issue := by
  cases moved with
  | @stored index newToken request access payload consumed there fresh =>
      have other : rawToken ≠ newToken := by
        rintro rfl
        cases fresh.symm.trans found
      simp only [setToken, storeToken, AList.lookup_insert_ne other]
      exact found
  | _ => exact found

theorem originOf_moved {service next : Service} {event : ServiceEvent}
    (moved : Moved hasher service event next) {rawToken : String}
    (known : (service.issued.lookup rawToken).isSome) :
    next.originOf rawToken = service.originOf rawToken := by
  obtain ⟨issue, found⟩ := Option.isSome_iff_exists.mp known
  simp only [originOf, found, issued_moved moved found]

theorem rotatesIssued_moved {service next : Service} {event : ServiceEvent}
    (moved : Moved hasher service event next) {phase : TokenPhase}
    (rotates : service.RotatesIssued phase) : next.RotatesIssued phase := by
  cases phase with
  | consuming access currentToken oldTtl oldPayload =>
      obtain ⟨own, issue, found, same⟩ := rotates
      exact ⟨own, issue, issued_moved moved found, same⟩
  | storing access payload consumed =>
      intro rotated member
      obtain ⟨issue, found, same⟩ := rotates rotated member
      exact ⟨issue, issued_moved moved found, same⟩
  | _ => trivial

/-! ## Where the tokens are -/

/-- What a step does to the tokens that are held. -/
inductive HeldMoved (service next : Service) : Prop where
  | same (moved : next.held.Perm service.held)
  | minted (rawToken : String) (fresh : service.issued.lookup rawToken = none)
      (known : (next.issued.lookup rawToken).isSome)
      (origin : next.originOf rawToken = rawToken)
      (moved : next.held.Perm (rawToken :: service.held))
  | rotated (rawToken rotated : String) {others : List String}
      (known : (next.issued.lookup rawToken).isSome)
      (origin : next.originOf rawToken = service.originOf rotated)
      (before : service.held.Perm (rotated :: others))
      (moved : next.held.Perm (rawToken :: others))

theorem consumed_turn {service : Service} {call : TokenCall} {phase : TokenPhase}
    (turn : TokenTurn hasher service call phase) :
    TokenCall.consumed { call with phase := phase } = call.consumed := by
  cases turn with
  | failed early refusal =>
      have idle : call.consumed = none := by
        unfold TokenCall.consumed
        split
        · rename_i same
          exact absurd same (early _ _ _)
        · rfl
      rw [idle]
      rfl
  | _ => rfl

theorem redeemed_turn {service : Service} {socket after : Socket} (presents : Presents socket)
    (turn : SocketTurn hasher service socket after) : after.redeemed = socket.redeemed := by
  cases turn with
  | keyTouched phase =>
      obtain ⟨⟨rawKey, credential⟩, none⟩ := presents.touching _ phase
      simp only [Socket.redeemed, Socket.authorize, credential, none]
  | _ => rfl

theorem held_setToken {service : Service} {index : Nat} {call : TokenCall} {phase : TokenPhase}
    (found : service.tokenCalls[index]? = some call)
    (same : TokenCall.consumed { call with phase := phase } = call.consumed) :
    (service.setToken index phase).held = service.held := by
  unfold held rotating
  rw [setToken, Places.filterMap_modify_same found same]
  rfl

theorem held_setSocket {service : Service} {index : Nat} {socket after : Socket}
    (found : service.sockets[index]? = some socket) (same : after.redeemed = socket.redeemed) :
    (service.setSocket index after).held = service.held := by
  unfold held redeemedTokens
  rw [setSocket, Places.filterMap_set_same found same]
  rfl

theorem held_consumed {service : Service} {redis : Redis} {index : Nat} {call : TokenCall}
    {phase : TokenPhase} {rawToken : String} {payload : TokenPayload}
    (found : service.tokenCalls[index]? = some call) (before : call.consumed = none)
    (after : TokenCall.consumed { call with phase := phase } = some rawToken)
    (live : service.redis.ephemeralTokens.get service.now rawToken = some payload)
    (taken : redis.ephemeralTokens = service.redis.ephemeralTokens.erase rawToken) :
    ((service.withRedis redis).setToken index phase).held.Perm service.held := by
  have tokens := ExpiringStore.keys_of_get live
  have calls : ((service.tokenCalls.modify index fun call =>
      { call with phase := phase }).filterMap TokenCall.consumed).Perm
        (rawToken :: service.rotating) := Places.filterMap_modify_new found before after
  unfold held
  refine List.Perm.append_right _ ?_
  simp only [setToken, withRedis, rotating, taken]
  refine ((calls.append_left _).trans List.perm_middle).trans ?_
  exact (tokens.append_right _).symm

theorem held_redeemed {service : Service} {redis : Redis} {index : Nat} {socket after : Socket}
    {rawToken : String} {payload : TokenPayload}
    (found : service.sockets[index]? = some socket) (before : socket.redeemed = none)
    (now : after.redeemed = some rawToken)
    (live : service.redis.ephemeralTokens.get service.now rawToken = some payload)
    (taken : redis.ephemeralTokens = service.redis.ephemeralTokens.erase rawToken) :
    ((service.withRedis redis).setSocket index after).held.Perm service.held := by
  have tokens := ExpiringStore.keys_of_get live
  have sockets := Places.filterMap_set_new found before now
  simp only [held, setSocket, withRedis, rotating, redeemedTokens, taken]
  refine ((sockets.append_left _).trans List.perm_middle).trans ?_
  exact ((tokens.append_right _).append_right _).symm

theorem held_stored {service : Service} {index : Nat} {rawToken : String}
    {request : Tokens.TokenRequest} {access : Access} {payload : TokenPayload}
    {consumed : Option (String × Int)} {response : Tokens.TokenResponse} (chained : Chained service)
    (found : service.tokenCalls[index]? = some ⟨request, .storing access payload consumed⟩)
    (fresh : service.issued.lookup rawToken = none) :
    HeldMoved service ((service.storeToken index rawToken payload request.ttlSeconds
      consumed).setToken index (.answered response (consumed.map Prod.snd))) := by
  have new : rawToken ∉ service.redis.ephemeralTokens.keys := by
    intro taken
    have known := chained.known rawToken (List.mem_append_left _ (List.mem_append_left _ taken))
    rw [fresh] at known
    cases known
  have keys := ExpiringStore.keys_set_of_fresh new service.now payload
    (Redis.clampTtl request.ttlSeconds * SECOND)
  cases consumed with
  | none =>
      have idle : (service.setToken index (.answered response none)).held = service.held :=
        held_setToken found rfl
      refine .minted rawToken fresh ?_ ?_ (.of_eq ?_)
      · simp only [setToken, storeToken, AList.lookup_insert, Option.isSome_some]
      · simp only [originOf, setToken, storeToken, AList.lookup_insert]
      · rw [← idle]
        simp only [held, setToken, storeToken, Redis.createEphemeralToken, keys, rotating,
          redeemedTokens, List.cons_append, Option.map_none]
  | some rotated =>
      have calls : service.rotating.Perm (rotated.1 ::
          (service.setToken index (.answered response (some rotated.2))).rotating) :=
        Places.filterMap_modify_gone found rfl rfl
      have before : service.held.Perm (rotated.1 :: (service.redis.ephemeralTokens.keys ++
          (service.setToken index (.answered response (some rotated.2))).rotating ++
          service.redeemedTokens)) :=
        ((calls.append_left _).trans List.perm_middle).append_right _
      refine .rotated rawToken rotated.1 ?_ ?_ before (.of_eq ?_)
      · simp only [setToken, storeToken, AList.lookup_insert, Option.isSome_some]
      · simp only [originOf, setToken, storeToken, AList.lookup_insert]
      · simp only [held, setToken, storeToken, Redis.createEphemeralToken, keys, rotating,
          redeemedTokens, List.cons_append, Option.map_some]

theorem held_moved {service next : Service} {event : ServiceEvent} (chained : Chained service)
    (moved : Moved hasher service event next) : HeldMoved service next := by
  cases moved with
  | @requested header request phase start =>
      have idle : TokenCall.consumed ⟨request, phase⟩ = none := by
        rcases start with ⟨refusal, rfl⟩ | ⟨rawKey, rfl⟩
        · rfl
        · rfl
      refine .same (.of_eq ?_)
      simp only [held, rotating, redeemedTokens, List.filterMap_append, List.filterMap_cons, idle,
        List.filterMap_nil, List.append_nil]
  | tokenTurned found turn => exact .same (.of_eq (held_setToken found (consumed_turn turn)))
  | @keyVerified index rawToken request key found secret =>
      have same : ((service.ask key.projectId key.tenantId).setToken index
          (.configuring key service.nextRead)).held =
            (service.ask key.projectId key.tenantId).held := held_setToken found rfl
      exact .same (.of_eq same)
  | consumed found live taken => exact .same (held_consumed found rfl rfl live taken)
  | stored found fresh => exact held_stored chained found fresh
  | accepted =>
      refine .same (.of_eq ?_)
      have idle : ∀ handshake, (Chat.accept handshake).redeemed = none := by
        intro handshake
        simp only [Socket.redeemed, Chat.accept]
        split
        · rename_i same
          cases same
        · rfl
      simp only [held, rotating, redeemedTokens, List.filterMap_append, List.filterMap_cons, idle,
        List.filterMap_nil, List.append_nil]
  | socketTurned found turn =>
      have presents := chained.presents _ (List.mem_of_getElem? found)
      exact .same (.of_eq (held_setSocket found (redeemed_turn presents turn)))
  | redeemed found phase live taken =>
      obtain ⟨credential, none⟩ :=
        (chained.presents _ (List.mem_of_getElem? found)).redeeming _ phase
      refine .same (held_redeemed found ?_ ?_ live taken)
      · simp only [Socket.redeemed, none, credential]
      · simp only [Socket.redeemed, Socket.authorize, credential]
  | @limited index uuid socket authority phase redis found authorized waits same =>
      have kept : ((service.withRedis redis).setSocket index (socket.withPhase phase)).held =
          (service.withRedis redis).held := held_setSocket found rfl
      refine .same (.of_eq (kept.trans ?_))
      simp only [held, rotating, redeemedTokens, withRedis, same]
  | @asked index uuid socket authority redis found authorized same =>
      have kept : (((service.withRedis redis).ask authority.projectId
          authority.tenantId).setSocket index (socket.withPhase
            (.configuring service.nextRead))).held =
          ((service.withRedis redis).ask authority.projectId authority.tenantId).held :=
        held_setSocket found rfl
      refine .same (.of_eq (kept.trans ?_))
      simp only [held, rotating, redeemedTokens, ask, withRedis, same]
  | entered found returned run => exact .same (.of_eq (held_setSocket found rfl))
  | _ => exact .same (.refl _)

theorem linear_moved {service next : Service} {event : ServiceEvent} (chained : Chained service)
    (moved : Moved hasher service event next) : Linear next.originOf next.held := by
  have kept : Linear next.originOf service.held := by
    refine chained.linear.congr fun rawToken member => ?_
    exact originOf_moved moved (chained.known rawToken member)
  cases held_moved chained moved with
  | same perm => exact kept.perm perm.symm
  | minted rawToken fresh known origin perm =>
      refine (kept.mint fun other member same => ?_).perm perm.symm
      -- a chain that exists began with a token that was issued
      obtain ⟨issue, found⟩ := Option.isSome_iff_exists.mp (chained.known other member)
      obtain ⟨original, began, _⟩ := chained.carried other issue found
      rw [origin, originOf_moved moved (chained.known other member)] at same
      simp only [originOf, found] at same
      rw [same] at began
      cases fresh.symm.trans began
  | rotated rawToken rotated known origin before perm =>
      have replaced := kept.perm before
      refine (replaced.replace ?_).perm perm.symm
      rw [origin, originOf_moved moved]
      exact chained.known rotated (before.symm.subset List.mem_cons_self)

theorem known_moved {service next : Service} {event : ServiceEvent} (chained : Chained service)
    (moved : Moved hasher service event next) :
    ∀ rawToken ∈ next.held, (next.issued.lookup rawToken).isSome := by
  have kept : ∀ rawToken ∈ service.held, (next.issued.lookup rawToken).isSome := by
    intro rawToken member
    obtain ⟨issue, found⟩ := Option.isSome_iff_exists.mp (chained.known rawToken member)
    rw [issued_moved moved found]
    rfl
  intro rawToken member
  cases held_moved chained moved with
  | same perm => exact kept rawToken (perm.subset member)
  | minted newToken fresh known origin perm =>
      rcases List.mem_cons.mp (perm.subset member) with rfl | old
      · exact known
      · exact kept rawToken old
  | rotated newToken rotated known origin before perm =>
      rcases List.mem_cons.mp (perm.subset member) with rfl | old
      · exact known
      · exact kept rawToken (before.symm.subset (List.mem_cons_of_mem _ old))

/-! ## What a token grants -/

theorem carried_moved {service next : Service} {event : ServiceEvent} (chained : Chained service)
    (moved : Moved hasher service event next) : next.Carried := by
  have kept : ∀ rawToken issue, service.issued.lookup rawToken = some issue →
      ∃ original, next.issued.lookup issue.origin = some original ∧
        issue.payload.projectId = original.payload.projectId ∧
        issue.payload.metadata = original.payload.metadata := by
    intro rawToken issue found
    obtain ⟨original, began, same⟩ := chained.carried rawToken issue found
    exact ⟨original, issued_moved moved began, same⟩
  cases moved with
  | @stored index newToken request access payload consumed there fresh =>
      intro rawToken issue found
      by_cases new : rawToken = newToken
      · subst new
        simp only [setToken, storeToken, AList.lookup_insert] at found
        cases found
        cases consumed with
        | none => exact ⟨_, AList.lookup_insert _, rfl, rfl⟩
        | some rotated =>
            have rotates := chained.rotations _ (List.mem_of_getElem? there)
            obtain ⟨previous, listed, project, metadata⟩ := rotates rotated rfl
            obtain ⟨original, began, project', metadata'⟩ := kept rotated.1 previous listed
            have origin : service.originOf rotated.1 = previous.origin := by
              simp only [originOf, listed]
            rw [← origin] at began
            exact ⟨original, began, project.trans project', metadata.trans metadata'⟩
      · simp only [setToken, storeToken, AList.lookup_insert_ne new] at found
        exact kept rawToken issue found
  | _ => exact kept

theorem storedTokens_moved {service next : Service} {event : ServiceEvent}
    (chained : Chained service) (moved : Moved hasher service event next) :
    ∀ rawToken entry, next.redis.ephemeralTokens.lookup rawToken = some entry →
      ∃ issue, next.issued.lookup rawToken = some issue ∧
        entry = ⟨issue.payload, some issue.expiresAt⟩ := by
  intro rawToken entry listed
  rcases token_source moved listed with old | ⟨_, _, _, _, issue, _, issued, same⟩
  · obtain ⟨issue, issued, same⟩ := chained.stored rawToken entry old
    exact ⟨issue, issued_moved moved issued, same⟩
  · exact ⟨issue, issued, same⟩

/-- A live token is one that was issued, with its payload. -/
theorem issued_of_live {service : Service} (chained : Chained service) {rawToken : String}
    {payload : TokenPayload}
    (live : service.redis.ephemeralTokens.get service.now rawToken = some payload) :
    ∃ issue, service.issued.lookup rawToken = some issue ∧ issue.payload = payload := by
  obtain ⟨entry, listed, _, rfl⟩ := ExpiringStore.get_eq_some.mp live
  obtain ⟨issue, issued, rfl⟩ := chained.stored rawToken entry listed
  exact ⟨issue, issued, rfl⟩

theorem rotatesIssued_change {service next : Service} (chained : Chained service)
    {call : TokenCall} {phase : TokenPhase} (before : service.RotatesIssued call.phase)
    (change : TokenChange hasher service next call phase) : service.RotatesIssued phase := by
  cases change with
  | turned turn =>
      cases turn with
      | failed early refusal => trivial
      | raised => trivial
      | keyFound verified => trivial
      | minting returned =>
          intro rotated member
          cases member
      | rotating returned => trivial
      | timed oldTtl => trivial
      | peeked live own =>
          obtain ⟨issue, issued, same⟩ := issued_of_live chained live
          exact ⟨own, issue, issued, same⟩
  | keyVerified secret asked => trivial
  | consumed live =>
      obtain ⟨own, issue, issued, same⟩ := before
      intro rotated member
      cases Option.mem_def.mp member
      exact ⟨issue, issued, by rw [same]; exact own.symm, by rw [same]; rfl⟩
  | stored response => trivial

theorem rotations_moved {service next : Service} {event : ServiceEvent} (chained : Chained service)
    (moved : Moved hasher service event next) :
    ∀ call ∈ next.tokenCalls, next.RotatesIssued call.phase := by
  intro call member
  obtain ⟨place, found⟩ := List.mem_iff_getElem?.mp member
  rcases (calls_moved moved).source found with old | ⟨_, start⟩ | ⟨before, there, _, change⟩
  · exact rotatesIssued_moved moved (chained.rotations call (List.mem_of_getElem? old))
  · rcases start with ⟨refusal, failed⟩ | ⟨rawKey, started⟩
    · rw [failed]
      trivial
    · rw [started]
      trivial
  · apply rotatesIssued_moved moved
    exact rotatesIssued_change chained (chained.rotations before (List.mem_of_getElem? there)) change

theorem presents_accept (handshake : Chat.Handshake) : Presents (Chat.accept handshake) := by
  constructor
  · intro rawToken phase
    simp only [Chat.accept] at phase
    split at phase
    · cases phase
    · rename_i presented
      cases phase
      exact ⟨presented, rfl⟩
    · cases phase
  · intro rawKey phase
    simp only [Chat.accept] at phase
    split at phase
    · cases phase
    · cases phase
    · rename_i presented
      cases phase
      exact ⟨presented, rfl⟩
  · exact fun keyDoc phase => absurd phase (Chat.accept_untouched handshake keyDoc)

/-- No socket goes back to its credential. -/
theorem presents_change {service next : Service} {socket after : Socket}
    (presents : Presents socket) (change : SocketChange hasher service next socket after) :
    Presents after := by
  cases change with
  | turned turn =>
      cases turn with
      | keyFound phase verified =>
          obtain ⟨credential, none⟩ := presents.lookingUp _ phase
          exact ⟨nofun, nofun, fun _ _ => ⟨⟨_, credential⟩, none⟩⟩
      | _ => exact ⟨nofun, nofun, nofun⟩
  | limited authorized waits =>
      rcases waits with ⟨window, count, rfl⟩ | ⟨close, rfl⟩
      · exact ⟨nofun, nofun, nofun⟩
      · exact ⟨nofun, nofun, nofun⟩
  | _ => exact ⟨nofun, nofun, nofun⟩

theorem presents_moved {service next : Service} {event : ServiceEvent} (chained : Chained service)
    (moved : Moved hasher service event next) : ∀ socket ∈ next.sockets, Presents socket := by
  intro socket member
  obtain ⟨place, found⟩ := List.mem_iff_getElem?.mp member
  rcases (sockets_moved moved).source found with old | ⟨_, handshake, rfl⟩ | ⟨before, there, change⟩
  · exact chained.presents socket (List.mem_of_getElem? old)
  · exact presents_accept handshake
  · exact presents_change (chained.presents before (List.mem_of_getElem? there)) change

theorem chained_moved {service next : Service} {event : ServiceEvent} (chained : Chained service)
    (moved : Moved hasher service event next) : Chained next where
  linear := linear_moved chained moved
  known := known_moved chained moved
  carried := carried_moved chained moved
  stored := storedTokens_moved chained moved
  rotations := rotations_moved chained moved
  presents := presents_moved chained moved

theorem chained_exec {now : Instant} {clock : Clock} {events : List ServiceEvent}
    {final : Service} (run : exec (step hasher) (initial now clock) events = some final) :
    Chained final :=
  exec_invariant Chained
    (fun _ _ _ chained stepped => chained_moved chained (step_moved stepped))
    (chained_initial now clock) run

/-- In every state of every run, of every chain of rotations one token at most is live, in
rotation or redeemed. -/
theorem tokens_linear (hasher : AuthTokenRepo.PasswordHasher) (now : Instant) (clock : Clock)
    (events : List ServiceEvent) :
    Always (step hasher) TokensLinear (initial now clock) events := by
  refine always_iff_reached.mpr fun front back middle split run => ?_
  exact tokensLinear_of_chained (chained_exec run)

end Service

end LiveChat.Api
