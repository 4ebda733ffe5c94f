import LiveChat.Api.TokenChains

/-!
# A handshake that fails has burned its token

`_resolve_project` redeems an ephemeral token before it checks anything else, and nothing
puts the token back.  So every handshake that is rejected after it has presented a live
token leaves the token redeemed.
-/

set_option autoImplicit false

namespace LiveChat.Api

open LiveChat.Core
open LiveChat.Db
open LiveChat.Foundation
open LiveChat.Foundation.LinearTickets
open LiveChat.Foundation.TransitionSystem
open LiveChat.Repositories
open LiveChat.Api.Chat (Authority Close Credential Handshake Socket SocketPhase)

def Chat.Socket.closeCode (socket : Socket) : Option Nat :=
  match socket.phase with
  | .closed close => some close.code
  | _ => none

namespace Service

/-- The codes of a rejection other than that of a token that is not live. -/
def rejectionCodes : List Nat := [4001, 4002, 4003, 4004, 4006, 4007, 4008]

/-- The socket presented a live token and was then rejected. -/
def RejectedWithToken (socket : Socket) (rawToken : String) : Prop :=
  socket.handshake.credential = .ok (.token rawToken) ∧
    ∃ code, socket.closeCode = some code ∧ code ∈ rejectionCodes

/-- The token can still be redeemed, with the payload it was issued with, if its time is not
over. -/
def KeepsToken (service : Service) (rawToken : String) : Prop :=
  ∀ issue ∈ service.issued.lookup rawToken, service.now < Issue.expiresAt issue →
    service.redis.ephemeralTokens.get service.now rawToken = some (Issue.payload issue)

/-- A token that was found missing is the only one that is rejected before it is redeemed. -/
def Judged (socket : Socket) : Prop :=
  ∀ rawToken close, socket.handshake.credential = .ok (.token rawToken) →
    socket.phase = .closed close → socket.authority = none → close = Chat.tokenInvalid

variable {hasher : AuthTokenRepo.PasswordHasher}

theorem judged_accept (handshake : Handshake) : Judged (Chat.accept handshake) := by
  intro rawToken close presented closed _
  have token : handshake.credential = .ok (.token rawToken) := presented
  simp only [Chat.accept, token] at closed
  cases closed

theorem judged_turn {service : Service} {socket after : Socket} (presents : Presents socket)
    (turn : SocketTurn hasher service socket after) : Judged after := by
  intro rawToken close presented closed unauthorized
  cases turn with
  | tokenMissing phase absent =>
      cases closed
      rfl
  | keyMissing phase =>
      -- the socket presented a key, not a token
      cases (presents.lookingUp _ phase).1.symm.trans presented
  | refused authorized refusal => cases authorized.symm.trans unauthorized
  | _ => cases closed

theorem judged_change {service next : Service} {socket after : Socket} (presents : Presents socket)
    (change : SocketChange hasher service next socket after) : Judged after := by
  cases change with
  | turned turn => exact judged_turn presents turn
  | redeemed phase live =>
      intro rawToken close presented closed unauthorized
      cases closed
  | limited authorized waits =>
      intro rawToken close presented closed unauthorized
      cases authorized.symm.trans unauthorized
  | asked authorized asked =>
      intro rawToken close presented closed unauthorized
      cases closed
  | entered returned sessionId =>
      intro rawToken close presented closed unauthorized
      cases closed

theorem judged_moved {service next : Service} {event : ServiceEvent} (chained : Chained service)
    (judged : ∀ socket ∈ service.sockets, Judged socket)
    (moved : Moved hasher service event next) : ∀ socket ∈ next.sockets, Judged socket := by
  intro socket member
  obtain ⟨place, found⟩ := List.mem_iff_getElem?.mp member
  rcases (sockets_moved moved).source found with old | ⟨_, handshake, rfl⟩ | ⟨before, there, change⟩
  · exact judged socket (List.mem_of_getElem? old)
  · exact judged_accept handshake
  · exact judged_change (chained.presents before (List.mem_of_getElem? there)) change

theorem closed_of_code {socket : Socket} {code : Nat} (coded : socket.closeCode = some code) :
    ∃ close, socket.phase = .closed close ∧ close.code = code := by
  unfold Socket.closeCode at coded
  split at coded
  · rename_i close closed
    cases coded
    exact ⟨close, closed, rfl⟩
  · cases coded

theorem gone_of_rejected {service : Service} (chained : Chained service)
    (judged : ∀ socket ∈ service.sockets, Judged socket) {socket : Socket} {rawToken : String}
    (member : socket ∈ service.sockets) (rejected : RejectedWithToken socket rawToken) :
    (∃ issue, service.issued.lookup rawToken = some issue) ∧
      service.redis.ephemeralTokens.get service.now rawToken = none := by
  obtain ⟨presented, code, coded, listedCode⟩ := rejected
  obtain ⟨close, closed, rfl⟩ := closed_of_code coded
  have redeemed : socket.redeemed = some rawToken := by
    cases authorized : socket.authority with
    | none =>
        have missing := judged socket member rawToken close presented closed authorized
        rw [missing] at listedCode
        exact absurd listedCode (by decide)
    | some authority => simp only [Socket.redeemed, presented, authorized]
  have listed : rawToken ∈ service.redeemedTokens :=
    List.mem_filterMap.mpr ⟨socket, member, redeemed⟩
  refine ⟨Option.isSome_iff_exists.mp (chained.known rawToken (List.mem_append_right _ listed)), ?_⟩
  by_contra live
  obtain ⟨payload, found⟩ := Option.ne_none_iff_exists'.mp live
  obtain ⟨entry, stored, _⟩ := ExpiringStore.get_eq_some.mp found
  have key : rawToken ∈ service.redis.ephemeralTokens.keys :=
    AList.lookup_isSome.mp (by rw [stored]; rfl)
  exact chained.linear.disjoint listed (List.mem_append_left _ key)

/-- A rejected handshake has burned its token: the token is kept only if its time has run
out, when nothing is promised of it. -/
theorem keepsToken_iff (hasher : AuthTokenRepo.PasswordHasher) (now : Instant) (clock : Clock)
    (events : List ServiceEvent) (final : Service) (index : Nat) (socket : Socket)
    (rawToken : String) (run : exec (step hasher) (initial now clock) events = some final)
    (found : final.sockets[index]? = some socket)
    (rejected : RejectedWithToken socket rawToken) :
    final.KeepsToken rawToken ↔
      ∀ issue ∈ final.issued.lookup rawToken, Issue.expiresAt issue ≤ final.now := by
  have both : Chained final ∧ ∀ socket ∈ final.sockets, Judged socket := by
    refine exec_invariant
      (fun service => Chained service ∧ ∀ socket ∈ service.sockets, Judged socket) ?_
      ⟨chained_initial now clock, fun socket member => absurd member List.not_mem_nil⟩ run
    rintro service event next ⟨chained, judged⟩ stepped
    have moved := step_moved stepped
    exact ⟨chained_moved chained moved, judged_moved chained judged moved⟩
  have gone := (gone_of_rejected both.1 both.2 (List.mem_of_getElem? found) rejected).2
  constructor
  · intro keeps issue issued
    by_contra alive
    have kept := keeps issue issued (Nat.lt_of_not_le alive)
    cases gone.symm.trans kept
  · intro expired issue issued alive
    exact absurd (expired issue issued) (Nat.not_le_of_lt alive)

/-- Tenant `t` has a project `p` with a secret key `k`, and mints a token with it. -/
def mintToken : List ServiceEvent :=
  [.rest (.register "t" "Tenant" "t@example.com"),
    .rest (.authenticate "t" (.createProject Rest.sampleProject)), .rest (.read 0),
    .rest (.write 0 (Rest.sampleRandom "p")),
    .rest (.authenticate "t" (.createKey "p" { keyType := "secret" })), .rest (.read 1),
    .rest (.write 1 (Rest.sampleRandom "k")),
    .requestToken (some "Bearer sk_live_body") (.create {}), .tokenStep 0 "", .tokenStep 0 "",
    .rest (.repo (.redisGet 0)), .rest (.repo (.findOne 0)), .rest (.repo (.redisSet 0)),
    .tokenStep 0 "", .tokenStep 0 "token"]

def suspendedHandshake : List ServiceEvent :=
  [.rest (.changeTenant "t" (.suspended true)), .accept { token := some "token" },
    .socketStep 0 "", .socketStep 0 "", .socketStep 0 "", .rest (.repo (.redisGet 1)),
    .socketStep 0 "", .socketStep 0 ""]

theorem suspended_run : ∃ final socket,
    exec (step AuthTokenRepo.plainHasher) (initial 0 ⟨0, 0⟩) (mintToken ++ suspendedHandshake) =
      some final ∧
    final.sockets[0]? = some socket ∧ RejectedWithToken socket "token" ∧
    ∃ issue, final.issued.lookup "token" = some issue ∧ final.now < issue.expiresAt := by
  have shape : (exec (step AuthTokenRepo.plainHasher) (initial 0 ⟨0, 0⟩)
      (mintToken ++ suspendedHandshake)).map (fun final =>
        ((final.sockets[0]?).map fun socket => (socket.handshake, socket.closeCode),
          (final.issued.lookup "token").map fun issue => decide (final.now < issue.expiresAt))) =
      some (some ({ token := some "token" }, some 4007), some true) := by decide
  obtain ⟨final, run, look⟩ := Option.map_eq_some_iff.mp shape
  obtain ⟨seen, timed⟩ := Prod.mk.inj look
  obtain ⟨socket, found, state⟩ := Option.map_eq_some_iff.mp seen
  obtain ⟨presented, coded⟩ := Prod.mk.inj state
  obtain ⟨issue, issued, alive⟩ := Option.map_eq_some_iff.mp timed
  refine ⟨final, socket, run, found, ⟨?_, 4007, coded, by decide⟩, issue, issued,
    of_decide_eq_true alive⟩
  rw [presented]
  decide

theorem keepsToken_suspended : ∃ final socket,
    exec (step AuthTokenRepo.plainHasher) (initial 0 ⟨0, 0⟩) (mintToken ++ suspendedHandshake) =
      some final ∧ final.sockets[0]? = some socket ∧
    (final.KeepsToken "token" ↔
      ∀ issue ∈ final.issued.lookup "token", Issue.expiresAt issue ≤ final.now) := by
  obtain ⟨final, socket, run, found, rejected, _⟩ := suspended_run
  exact ⟨final, socket, run, found,
    keepsToken_iff AuthTokenRepo.plainHasher 0 ⟨0, 0⟩ _ final 0 socket "token" run found rejected⟩

/-- Closed with 4007, and the token that has its 60 seconds is gone. -/
theorem keepsToken_fails :
    ¬ ∀ (hasher : AuthTokenRepo.PasswordHasher) (now : Instant) (clock : Clock)
      (events : List ServiceEvent) (final : Service) (index : Nat) (socket : Socket)
      (rawToken : String), exec (step hasher) (initial now clock) events = some final →
      final.sockets[index]? = some socket → RejectedWithToken socket rawToken →
      final.KeepsToken rawToken := by
  intro keeps
  obtain ⟨final, socket, run, found, rejected, issue, issued, alive⟩ := suspended_run
  have kept := keeps AuthTokenRepo.plainHasher 0 ⟨0, 0⟩ _ final 0 socket "token" run found rejected
  have live := kept issue issued alive
  have gone : (exec (step AuthTokenRepo.plainHasher) (initial 0 ⟨0, 0⟩)
      (mintToken ++ suspendedHandshake)).map (fun final =>
        final.redis.ephemeralTokens.get final.now "token") = some none := by decide
  rw [run] at gone
  cases (Option.some.inj gone).symm.trans live

end Service

end LiveChat.Api
