import LiveChat.Api.SessionHistory

/-!
# The usage that is shown and the usage that is charged

The dashboard adds up the sessions of a project, the quota check those of a tenant.  The two
agree: what the check counts is what the tenant's projects show together.
-/

set_option autoImplicit false

namespace LiveChat.Api.SessionHistory

open LiveChat.Core
open LiveChat.Core.SessionManager (Record)
open LiveChat.Foundation
open LiveChat.Foundation.TransitionSystem
open LiveChat.Repositories
open LiveChat.Repositories.ProjectRepo (storedDate)
open LiveChat.Repositories.SessionRepo (DAY countsToward inSummary startOfDay totalTokens)

def projectIds (store : ProjectRepo.Store) (tenantId : String) : List String :=
  (store.projects.entries.filter fun entry => decide (entry.2.tenantId = tenantId)).map Sigma.fst

/-- The tokens that `get_usage` answers with, when it does. -/
def shownTokens (service : Service) (tenantId : String) (days : Int) (projectId : String) : Nat :=
  match getUsage service.rest.repo.store (sessionsOf service) tenantId projectId days
    service.node.clock.utc with
  | .ok response => response.totalTokens
  | .error _ => 0

theorem mem_projectIds {service : Service} {projectId tenantId : String} :
    projectId ∈ projectIds service.rest.repo.store tenantId ↔
      service.rest.Stored projectId tenantId := by
  simp only [projectIds, List.mem_map, List.mem_filter, decide_eq_true_eq]
  constructor
  · rintro ⟨⟨id, doc⟩, ⟨member, own⟩, rfl⟩
    exact ⟨doc, AList.mem_lookup_iff.mpr member, own⟩
  · rintro ⟨doc, found, own⟩
    exact ⟨⟨projectId, doc⟩, ⟨AList.mem_lookup_iff.mp found, own⟩, rfl⟩

theorem nodup_projectIds (store : ProjectRepo.Store) (tenantId : String) :
    (projectIds store tenantId).Nodup :=
  store.projects.nodupKeys.sublist List.filter_sublist

/-! ## One project -/

theorem usageSummary_tokens (sessions : List SessionDoc) (projectId : String) (since : Instant) :
    (SessionRepo.usageSummary sessions projectId since).totalInputTokens +
      (SessionRepo.usageSummary sessions projectId since).totalOutputTokens =
      Ledger.total (inSummary projectId since) totalTokens sessions := by
  simp only [SessionRepo.usageSummary, Ledger.total, ← List.sum_map_add]
  rfl

theorem shownTokens_stored {service : Service} {tenantId projectId : String}
    (stored : service.rest.Stored projectId tenantId) (days : Int) :
    shownTokens service tenantId days projectId =
      Ledger.total (inSummary projectId (service.node.clock.utc - clamp MAX_DAYS days * DAY))
        totalTokens (sessionsOf service) := by
  obtain ⟨doc, found⟩ := ownProject_stored stored
  rw [← usageSummary_tokens]
  simp only [shownTokens, getUsage, found]

/-- Today began after the period that is asked for. -/
theorem since_le_startOfDay (utc : Nat) (days : Int) :
    utc - clamp MAX_DAYS days * DAY ≤ startOfDay utc := by
  have atLeast : DAY ≤ clamp MAX_DAYS days * DAY :=
    Nat.le_mul_of_pos_left DAY (clamp_pos MAX_DAYS days)
  have today : utc ≤ startOfDay utc + DAY :=
    calc utc = startOfDay utc + utc % DAY := (Nat.div_add_mod' utc DAY).symm
      _ ≤ startOfDay utc + DAY := Nat.add_le_add_left (Nat.mod_lt utc (by decide)).le _
  exact Nat.le_trans (Nat.sub_le_sub_left atLeast utc) (Nat.sub_le_iff_le_add.mpr today)

/-! ## All projects of a tenant -/

structure UsageAgrees (service : Service) (tenantId : String) : Prop where
  /-- `get_daily_token_usage` and `usage_summary`, from the same instant on. -/
  sums : ∀ start, service.usage tenantId start =
    ((projectIds service.rest.repo.store tenantId).map fun projectId =>
      (SessionRepo.usageSummary (sessionsOf service) projectId start).totalInputTokens +
        (SessionRepo.usageSummary (sessionsOf service) projectId start).totalOutputTokens).sum
  /-- What a handshake is charged with today, a dashboard of any period shows. -/
  shown : ∀ days, service.usage tenantId (startOfDay service.node.clock.utc) ≤
    ((projectIds service.rest.repo.store tenantId).map (shownTokens service tenantId days)).sum

/-- The sessions of a tenant's project are the tenant's. -/
theorem total_project {service : Service} (sited : service.Sited) {projectId tenantId : String}
    (stored : service.rest.Stored projectId tenantId) (start : Instant) :
    Ledger.total (inSummary projectId start) totalTokens (sessionsOf service) =
      Ledger.total (fun doc => decide (doc.projectId = projectId) && countsToward tenantId start doc)
        totalTokens (sessionsOf service) := by
  unfold Ledger.total
  refine congrArg (fun kept => (List.map totalTokens kept).sum) (List.filter_congr fun doc member => ?_)
  obtain ⟨record, there, rfl⟩ := List.mem_map.mp member
  simp only [inSummary, countsToward]
  by_cases named : record.doc.projectId = projectId
  · simp [named, Service.own_of_stored sited there stored named]
  · simp [named]

theorem usage_eq_sum {service : Service} (sited : service.Sited) (tenantId : String)
    (start : Instant) : service.usage tenantId start =
      ((projectIds service.rest.repo.store tenantId).map fun projectId =>
        Ledger.total (inSummary projectId start) totalTokens (sessionsOf service)).sum := by
  have posted : ∀ doc ∈ sessionsOf service, countsToward tenantId start doc = true →
      doc.projectId ∈ projectIds service.rest.repo.store tenantId := by
    intro doc member counted
    obtain ⟨record, there, rfl⟩ := List.mem_map.mp member
    simp only [countsToward, Bool.and_eq_true, beq_iff_eq] at counted
    rw [mem_projectIds, ← counted.1]
    exact Service.stored_of_record sited there
  calc service.usage tenantId start
      = Ledger.total (countsToward tenantId start) totalTokens (sessionsOf service) := rfl
    _ = ((projectIds service.rest.repo.store tenantId).map fun projectId =>
          Ledger.total (fun doc => decide (doc.projectId = projectId) &&
            countsToward tenantId start doc) totalTokens (sessionsOf service)).sum :=
        (Ledger.sum_accounts (nodup_projectIds _ tenantId) posted).symm
    _ = _ := congrArg List.sum (List.map_congr_left fun projectId member =>
        (total_project sited (mem_projectIds.mp member) start).symm)

theorem usage_mono (service : Service) (tenantId : String) {start later : Instant}
    (earlier : start ≤ later) : service.usage tenantId later ≤ service.usage tenantId start := by
  refine Ledger.total_le_of_sublist (List.monotone_filter_right _ fun doc counted => ?_)
  simp only [countsToward, Bool.and_eq_true, decide_eq_true_eq] at counted ⊢
  exact ⟨counted.1, Nat.le_trans earlier counted.2⟩

theorem usageAgrees_of_sited {service : Service} (sited : service.Sited) (tenantId : String) :
    UsageAgrees service tenantId := by
  refine ⟨fun start => ?_, fun days => ?_⟩
  · simp only [usageSummary_tokens]
    exact usage_eq_sum sited tenantId start
  · calc service.usage tenantId (startOfDay service.node.clock.utc)
        ≤ service.usage tenantId (service.node.clock.utc - clamp MAX_DAYS days * DAY) :=
          usage_mono service tenantId (since_le_startOfDay _ days)
      _ = _ := usage_eq_sum sited tenantId _
      _ = _ := congrArg List.sum (List.map_congr_left fun projectId member =>
          (shownTokens_stored (mem_projectIds.mp member) days).symm)

/-- In every state of every run. -/
theorem usage_agrees (hasher : AuthTokenRepo.PasswordHasher) (now : Instant) (clock : Clock)
    (events : List ServiceEvent) :
    Always (Service.step hasher) (fun service => ∀ tenantId, UsageAgrees service tenantId)
      (Service.initial now clock) events := by
  refine always_iff_reached.mpr fun front back service split run tenantId => ?_
  exact usageAgrees_of_sited (Service.sited_reached run) tenantId

end LiveChat.Api.SessionHistory
