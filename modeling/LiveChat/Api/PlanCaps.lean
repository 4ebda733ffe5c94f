import LiveChat.Api.StoredTools

/-!
# The caps of a plan on what is stored

The endpoints cap a session TTL, a rate limit or a timeout when they write it, and compare
the number of tools with the plan before they write the array.  For a tenant that stays on
one plan every stored value is within the caps, also when the requests overlap.
-/

set_option autoImplicit false

namespace LiveChat.Api

open LiveChat.Core
open LiveChat.Core.PlanLimits
open LiveChat.Foundation
open LiveChat.Foundation.TransitionSystem
open LiveChat.Repositories
open LiveChat.Repositories.ProjectRepo (Write)
open LiveChat.Api.Projects
open LiveChat.Api.Tools (ToolRequest CreateToolRequest UpdateToolRequest)

/-! ## Tools -/

structure ToolsWithin (plan : Plan) (tools : List ToolDefinition) : Prop where
  count : ∀ limit ∈ maxToolsPerProject plan, tools.length ≤ limit
  timeouts : ∀ tool ∈ tools, tool.timeoutMs ≤ maxWebhookTimeoutMs plan

theorem toolsWithin_nil (plan : Plan) : ToolsWithin plan [] :=
  ⟨fun limit _ => Nat.zero_le limit, fun _ member => absurd member List.not_mem_nil⟩

theorem merge_timeoutMs (body : UpdateToolRequest) (plan : Plan) (existing : ToolDefinition)
    (within : existing.timeoutMs ≤ maxWebhookTimeoutMs plan) :
    (body.merge plan existing).timeoutMs ≤ maxWebhookTimeoutMs plan := by
  simp only [UpdateToolRequest.merge]
  cases body.timeoutMs with
  | none => exact within
  | some requested => exact effectiveWebhookTimeoutMs_le plan requested

/-- Each tool request keeps the tools of a project within the plan. -/
theorem run_within {plan : Plan} {projectId : String} {request : ToolRequest}
    {tools next : List ToolDefinition} (ran : request.run plan projectId tools = .ok next)
    (within : ToolsWithin plan tools) : ToolsWithin plan next := by
  cases Tools.run_ran ran with
  | @added body fresh room =>
      constructor
      · intro limit paid
        have below : tools.length < limit := by
          simpa [isWithinToolLimit, isWithin, Option.mem_def.mp paid] using room
        rw [List.length_append]
        exact below
      · intro tool member
        rcases List.mem_append.mp member with old | new
        · exact within.timeouts tool old
        · cases List.mem_singleton.mp new
          exact effectiveWebhookTimeoutMs_le plan body.timeoutMs
  | @updated toolName body index existing found complete =>
      constructor
      · intro limit paid
        rw [List.length_set]
        exact within.count limit paid
      · intro tool member
        rcases List.mem_or_eq_of_mem_set member with old | rfl
        · exact within.timeouts tool old
        · exact merge_timeoutMs body plan existing
            (within.timeouts existing (List.mem_of_getElem? found))
  | deleted =>
      constructor
      · intro limit paid
        exact Nat.le_trans (List.length_filter_le _ tools) (within.count limit paid)
      · intro tool member
        exact within.timeouts tool (List.mem_filter.mp member).1

namespace Rest

variable {hasher : AuthTokenRepo.PasswordHasher}

/-! ## Projects and keys -/

structure LimitsWithin (plan : Plan) (doc : ProjectDoc) : Prop where
  sessionTtl : doc.sessionTtlSeconds ≤ maxSessionTtlSeconds plan
  rateLimit : ∀ limit ∈ maxRateLimitRpm plan, doc.rateLimitRpm ≤ limit

theorem limitsWithin_new (tenantId : String) (plan : Plan) (body : CreateProjectRequest)
    (id : String) (now : Instant) : LimitsWithin plan (newProject tenantId plan body id now) :=
  ⟨effectiveSessionTtl_le plan body.sessionTtlSeconds,
    effectiveRateLimitRpm_le plan body.rateLimitRpm⟩

theorem limitsWithin_write {store : ProjectRepo.Store} {tenant : TenantDoc}
    {request : RestRequest} {projectId : String} {basis doc : ProjectDoc} {write : Write}
    {updatedAt : Instant}
    (computes : Computes store tenant request (.updateProject projectId basis write updatedAt))
    (within : LimitsWithin tenant.plan doc) :
    LimitsWithin tenant.plan (write.fields.set updatedAt doc) := by
  cases computes with
  | @edit _ change _ fields read accepted =>
      have bounded := Edit.bounded_fields accepted
      constructor
      · simp only [ProjectRepo.Write.fields, ProjectRepo.ProjectFields.set]
        cases given : fields.sessionTtlSeconds with
        | none => exact within.sessionTtl
        | some ttl => exact bounded.sessionTtl ttl given
      · simp only [ProjectRepo.Write.fields, ProjectRepo.ProjectFields.set]
        cases given : fields.rateLimitRpm with
        | none => exact within.rateLimit
        | some rpm => exact bounded.rateLimit rpm given
  | deleteProject read => exact ⟨within.sessionTtl, within.rateLimit⟩
  | tool read ran => exact ⟨within.sessionTtl, within.rateLimit⟩

def KeysWithin (tenantId : String) (plan : Plan) (rest : Rest) : Prop :=
  ∀ doc ∈ rest.apiKeys, doc.tenantId = tenantId →
    ∀ limit ∈ maxRateLimitRpm plan, doc.rateLimitRpm ≤ limit

theorem keysWithin_moved {rest next : Rest} {event : RestEvent} {tenantId : String} {plan : Plan}
    (sound : Sound rest) (subscribed : Subscribed tenantId plan rest)
    (within : KeysWithin tenantId plan rest) (moved : Moved hasher rest event next) :
    KeysWithin tenantId plan next := by
  intro doc member own
  cases moved with
  | @insertedKey index call random projectId label keyType rateLimitRpm found writing fresh =>
      rcases List.mem_append.mp member with old | new
      · exact within doc old own
      · cases List.mem_singleton.mp new
        have here := List.mem_of_getElem? found
        obtain ⟨store, accepted⟩ := sound.checked call here _ writing
        obtain ⟨tenant, request, phase⟩ := call
        rw [← subscribed _ here own]
        cases check_computes accepted with
        | @createKey _ body _ _ read =>
            exact effectiveKeyRateLimitRpm_le tenant.plan body.rateLimitRpm
  | revokedKey found writing answer =>
      obtain ⟨before, old, same | ⟨_, marked⟩⟩ := APIKeyRepo.mem_revoke member
      · exact within doc (same ▸ old) own
      · rw [marked] at own ⊢
        exact within before old own
  | _ => exact within doc member own

/-- Every value stored for the tenant is within the caps of the plan. -/
structure CapsHold (tenantId : String) (plan : Plan) (rest : Rest) : Prop where
  limits : rest.Stocks (· = tenantId) (LimitsWithin plan)
  tools : rest.Stocks (· = tenantId) fun doc => ToolsWithin plan doc.tools
  keys : rest.KeysWithin tenantId plan

/-! ## Runs -/

theorem capsHold_of_onPlan (hasher : AuthTokenRepo.PasswordHasher) (tenantId : String)
    (plan : Plan) (now : Instant) (events : List RestEvent)
    (fixed : Along (step hasher) (OnPlan tenantId plan) (initial now) events) :
    Always (step hasher) (CapsHold tenantId plan) (initial now) events := by
  have always : Always (step hasher) (fun rest => (Sound rest ∧ Subscribed tenantId plan rest) ∧
      rest.Stocks (· = tenantId) (LimitsWithin plan) ∧
      rest.KeepsTools (· = tenantId) (ToolsWithin plan) ∧ rest.KeysWithin tenantId plan)
      (initial now) events := by
    refine always_of_along _ ?_ ⟨⟨sound_initial now, subscribed_initial tenantId plan now⟩,
      stocks_initial _ _ now, keepsTools_initial _ _ now,
      fun _ member => absurd member List.not_mem_nil⟩ fixed
    rintro rest event next ⟨⟨sound, subscribed⟩, limits, tools, keys⟩ onPlan run
    have moved := step_moved run
    refine ⟨⟨sound_moved sound moved, subscribed_moved sound subscribed onPlan moved⟩, ?_, ?_,
      keysWithin_moved sound subscribed keys moved⟩
    · refine stocks_moved limits ?_ ?_ moved
      · intro call member own body now id writing
        rw [← subscribed call member own]
        exact limitsWithin_new call.tenant.id call.tenant.plan body id now
      · intro call member own projectId basis write updatedAt writing doc within
        obtain ⟨store, accepted⟩ := sound.checked call member _ writing
        rw [← subscribed call member own] at within ⊢
        exact limitsWithin_write (check_computes accepted) within
    · refine keepsTools_moved sound tools (toolsWithin_nil plan) ?_ moved
      intro call member own _ projectId request before after _ ran within
      rw [subscribed call member own] at ran
      exact run_within ran within
  exact always.mono fun rest held => ⟨held.2.1, held.2.2.1.stored, held.2.2.2⟩

/-- A free tenant asks for two minutes and gets one, and for a key with a thousand requests. -/
theorem capsHold_free : Always (step AuthTokenRepo.plainHasher) (CapsHold "t" .free) (initial 0)
    [.register "t" "Tenant" "t@example.com", .authenticate "t" (.createProject sampleProject),
      .read 0, .write 0 (sampleRandom "p"),
      .authenticate "t" (.createKey "p" { rateLimitRpm := 1000 }), .read 1,
      .write 1 (sampleRandom "k")] :=
  capsHold_of_onPlan AuthTokenRepo.plainHasher "t" .free 0 _ (by decide)

end Rest

end LiveChat.Api
