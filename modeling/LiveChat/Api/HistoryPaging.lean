import LiveChat.Api.SessionHistory

/-!
# Paging through the session history

A dashboard reads the history a page at a time while sessions end and are recorded.
-/

set_option autoImplicit false

namespace LiveChat.Api.SessionHistory

open LiveChat.Core
open LiveChat.Core.SessionEvents (Library)
open LiveChat.Core.SessionManager (Node Record)
open LiveChat.Foundation
open LiveChat.Foundation.OffsetPaging (Ahead Unshared)
open LiveChat.Foundation.TransitionSystem
open LiveChat.Repositories
open LiveChat.Repositories.SessionRepo (IsCursor inListing matching rank)

structure Query where
  tenantId : String
  projectId : String
  limit : Int := 50
  status : Option String := none

def Query.pageSize (query : Query) : Nat := clamp MAX_LIMIT query.limit

/-- The service, and the pages that the client was sent. -/
structure Browsing where
  service : Service
  pages : List SessionListResponse := []

inductive BrowseEvent where
  | service (event : ServiceEvent)
  /-- `GET /sessions`, skipping what the earlier pages held when they were full. -/
  | nextPage (order : List SessionDoc)

namespace Browsing

def skip (query : Query) (browsing : Browsing) : Nat := browsing.pages.length * query.pageSize

/-- The response to a signed-in client, when the cursor returns the sessions in this order. -/
def response (library : Library) (query : Query) (browsing : Browsing) (order : List SessionDoc) :
    Option SessionListResponse :=
  match currentTenant browsing.service.rest.tenants query.tenantId with
  | .error _ => none
  | .ok tenant =>
      if IsCursor (sessionsOf browsing.service) query.projectId query.status order then
        (listSessions library browsing.service.rest.repo.store tenant.id query.projectId
          query.limit (browsing.skip query) order).toOption
      else none

def step (hasher : AuthTokenRepo.PasswordHasher) (library : Library) (query : Query)
    (browsing : Browsing) : BrowseEvent → Option Browsing
  | .service event =>
      (browsing.service.step hasher event).map fun service =>
        { browsing with service := service }
  | .nextPage order =>
      (browsing.response library query order).map fun page =>
        { browsing with pages := browsing.pages ++ [page] }

/-- The pages cover what was recorded before the first one, and show nothing of other tenants. -/
structure Covers (library : Library) (query : Query) (service : Service) (final : Browsing) :
    Prop where
  /-- Sessions that started in the same millisecond may be passed over. -/
  shown : ∀ record ∈ service.node.records,
    inListing query.projectId query.status record.doc = true →
    Unshared rank (matching (sessionsOf final.service) query.projectId query.status) record.doc →
    ∃ page ∈ final.pages, summary library record.doc ∈ page.sessions
  own : ∀ page ∈ final.pages, ∀ shown ∈ page.sessions, ∃ record ∈ final.service.node.records,
    record.doc.tenantId = query.tenantId ∧ shown = summary library record.doc
  opens : ∀ page ∈ final.pages, ∀ shown ∈ page.sessions,
    getSession library final.service.rest.repo.store (sessionsOf final.service) query.tenantId
      query.projectId shown.sessionId = .ok shown

variable {hasher : AuthTokenRepo.PasswordHasher} {library : Library} {query : Query}

/-! ## A page -/

structure Fetched (library : Library) (query : Query) (browsing : Browsing)
    (order : List SessionDoc) (page : SessionListResponse) : Prop where
  cursor : IsCursor (sessionsOf browsing.service) query.projectId query.status order
  project : browsing.service.rest.Stored query.projectId query.tenantId
  sessions : page.sessions =
    (OffsetPaging.page (browsing.skip query) query.pageSize order).map (summary library)
  total : page.total = (OffsetPaging.page (browsing.skip query) query.pageSize order).length
  limit : page.limit = query.pageSize

theorem fetched_of_response {browsing : Browsing} {order : List SessionDoc}
    {page : SessionListResponse} (identified : TenantRepo.Identified browsing.service.rest.tenants)
    (sent : browsing.response library query order = some page) :
    Fetched library query browsing order page := by
  unfold response at sent
  split at sent
  · cases sent
  · rename_i tenant current
    obtain ⟨named, nonempty⟩ := identified _ _ (Rest.currentTenant_ok current).1
    split at sent
    · rename_i cursor
      rw [named] at sent
      unfold listSessions at sent
      split at sent
      · cases sent
      · rename_i doc found
        rw [if_neg (by omega)] at sent
        cases sent
        obtain ⟨stored, own⟩ := getById_some (ownProject_ok.mp found)
        exact ⟨cursor, ⟨doc, stored, own nonempty⟩, rfl, rfl, rfl⟩
    · cases sent

theorem step_cases {browsing next : Browsing} {event : BrowseEvent}
    (identified : TenantRepo.Identified browsing.service.rest.tenants)
    (run : browsing.step hasher library query event = some next) :
    (∃ serviceEvent service, Service.Moved hasher browsing.service serviceEvent service ∧
      next = { browsing with service := service }) ∨
    ∃ order page, Fetched library query browsing order page ∧
      next = { browsing with pages := browsing.pages ++ [page] } := by
  cases event with
  | service event =>
      obtain ⟨service, stepped, rfl⟩ := Option.map_eq_some_iff.mp run
      exact Or.inl ⟨event, service, Service.step_moved stepped, rfl⟩
  | nextPage order =>
      obtain ⟨page, sent, rfl⟩ := Option.map_eq_some_iff.mp run
      exact Or.inr ⟨order, page, fetched_of_response identified sent, rfl⟩

theorem matching_grown {service next : Service} {event : ServiceEvent}
    (moved : Service.Moved hasher service event next) (projectId : String)
    (status : Option String) :
    (matching (sessionsOf service) projectId status).Sublist
      (matching (sessionsOf next) projectId status) :=
  ((Service.records_prefix_moved moved).sublist.map Record.doc).filter _

/-! ## Nothing is passed over -/

/-- The session was on a page, or the reader is still before it and the last page was full. -/
def OnCourse (library : Library) (query : Query) (doc : SessionDoc) (browsing : Browsing) : Prop :=
  (∃ page ∈ browsing.pages, summary library doc ∈ page.sessions) ∨
    Ahead rank (matching (sessionsOf browsing.service) query.projectId query.status)
      (browsing.skip query) doc ∧
    ∀ page ∈ browsing.pages.getLast?, page.limit ≤ page.total

theorem onCourse_page {browsing : Browsing} {order : List SessionDoc} {page : SessionListResponse}
    {doc : SessionDoc} (fetched : Fetched library query browsing order page)
    (unshared : Unshared rank
      (matching (sessionsOf browsing.service) query.projectId query.status) doc)
    (course : OnCourse library query doc browsing) :
    OnCourse library query doc { browsing with pages := browsing.pages ++ [page] } := by
  rcases course with ⟨earlier, member, shown⟩ | ⟨ahead, full⟩
  · exact Or.inl ⟨earlier, List.mem_append_left _ member, shown⟩
  · have passed : doc ∈ OffsetPaging.page (browsing.skip query) query.pageSize order ∨
        Ahead rank (matching (sessionsOf browsing.service) query.projectId query.status)
          (browsing.skip query + query.pageSize) doc :=
      OffsetPaging.mem_page_or_ahead fetched.cursor unshared ahead
    rcases passed with here | beyond
    · refine Or.inl ⟨page, List.mem_append_right _ List.mem_cons_self, ?_⟩
      rw [fetched.sessions]
      exact List.mem_map_of_mem here
    · refine Or.inr ⟨?_, fun last member => ?_⟩
      · simp only [skip, List.length_append, List.length_singleton, Nat.add_one_mul]
        exact beyond
      · simp only [List.getLast?_concat, Option.mem_some_iff] at member
        subst member
        rw [fetched.limit, fetched.total]
        exact Nat.le_of_not_lt fun short =>
          OffsetPaging.not_ahead_of_short fetched.cursor unshared short beyond

/-- As long as the session shares its start with no other. -/
theorem onCourse_step {browsing next : Browsing} {event : BrowseEvent} {doc : SessionDoc}
    (identified : TenantRepo.Identified browsing.service.rest.tenants)
    (run : browsing.step hasher library query event = some next)
    (course : Unshared rank
      (matching (sessionsOf browsing.service) query.projectId query.status) doc →
      OnCourse library query doc browsing)
    (unshared : Unshared rank
      (matching (sessionsOf next.service) query.projectId query.status) doc) :
    OnCourse library query doc next := by
  rcases step_cases identified run with ⟨_, service, moved, rfl⟩ | ⟨order, page, fetched, rfl⟩
  · have grown := matching_grown moved query.projectId query.status
    rcases course (OffsetPaging.unshared_of_grown grown unshared) with shown | ⟨ahead, full⟩
    · exact Or.inl shown
    · exact Or.inr ⟨OffsetPaging.ahead_grown grown ahead, full⟩
  · exact onCourse_page fetched unshared (course unshared)

/-! ## Nothing else is shown -/

structure Shows (library : Library) (query : Query) (browsing : Browsing) : Prop where
  sited : browsing.service.Sited
  records : ∀ page ∈ browsing.pages, ∀ shown ∈ page.sessions,
    ∃ record ∈ browsing.service.node.records, record.doc.projectId = query.projectId ∧
      shown = summary library record.doc
  project : browsing.pages ≠ [] → browsing.service.rest.Stored query.projectId query.tenantId

theorem records_of_fetched {browsing : Browsing} {order : List SessionDoc}
    {page : SessionListResponse} (fetched : Fetched library query browsing order page) :
    ∀ shown ∈ page.sessions, ∃ record ∈ browsing.service.node.records,
      record.doc.projectId = query.projectId ∧ shown = summary library record.doc := by
  intro shown member
  rw [fetched.sessions] at member
  obtain ⟨doc, inside, rfl⟩ := List.mem_map.mp member
  obtain ⟨stored, listed⟩ := List.mem_filter.mp
    (OffsetPaging.mem_of_mem_page fetched.cursor inside)
  obtain ⟨record, there, rfl⟩ := List.mem_map.mp stored
  simp only [inListing, Bool.and_eq_true, beq_iff_eq] at listed
  exact ⟨record, there, listed.1, rfl⟩

theorem shows_step {browsing next : Browsing} {event : BrowseEvent}
    (shows : Shows library query browsing)
    (run : browsing.step hasher library query event = some next) :
    Shows library query next := by
  rcases step_cases shows.sited.placed.sound.tenants run with
    ⟨_, service, moved, rfl⟩ | ⟨order, page, fetched, rfl⟩
  · refine ⟨Service.sited_moved shows.sited moved, fun page member shown inside => ?_,
      fun sent => Service.stored_moved moved (shows.project sent)⟩
    obtain ⟨record, stored, same⟩ := shows.records page member shown inside
    exact ⟨record, (Service.records_prefix_moved moved).subset stored, same⟩
  · refine ⟨shows.sited, ?_, fun _ => ?_⟩
    · refine List.forall_mem_append.mpr ⟨shows.records, fun other member => ?_⟩
      cases List.mem_singleton.mp member
      have own := records_of_fetched fetched
      exact own
    · have stored := fetched.project
      exact stored

theorem getById_record {node : Node} (books : Node.Scoped node) {record : Record}
    (member : record ∈ node.records) {projectId : String}
    (named : record.doc.projectId = projectId) :
    SessionRepo.getById (node.records.map Record.doc) record.doc.id projectId =
      some record.doc := by
  obtain ⟨doc, found⟩ : ∃ doc, SessionRepo.getById (node.records.map Record.doc) record.doc.id
      projectId = some doc := by
    refine Option.isSome_iff_exists.mp (List.find?_isSome.mpr ?_)
    exact ⟨record.doc, List.mem_map_of_mem member, by simp [named]⟩
  rw [found]
  have same := List.find?_some found
  simp only [Bool.and_eq_true, beq_iff_eq] at same
  obtain ⟨other, there, rfl⟩ := List.mem_map.mp (List.mem_of_find?_eq_some found)
  have unique := List.inj_on_of_nodup_map books.ids there member same.1
  rw [unique]

theorem getSession_shown {browsing : Browsing} (shows : Shows library query browsing)
    {page : SessionListResponse} (sent : page ∈ browsing.pages) {shown : SessionSummaryResponse}
    (member : shown ∈ page.sessions) :
    getSession library browsing.service.rest.repo.store (sessionsOf browsing.service)
      query.tenantId query.projectId shown.sessionId = .ok shown := by
  obtain ⟨record, stored, named, rfl⟩ := shows.records page sent shown member
  obtain ⟨doc, project⟩ := ownProject_stored (shows.project (List.ne_nil_of_mem sent))
  have session := getById_record shows.sited.books stored named
  simp only [getSession, project, summary, sessionsOf, session]

/-! ## A whole reading -/

theorem shows_initial {service : Service} (sited : service.Sited) :
    Shows library query ⟨service, []⟩ :=
  ⟨sited, fun _ member => absurd member List.not_mem_nil, fun sent => absurd rfl sent⟩

theorem shows_exec {service : Service} {final : Browsing} {events : List BrowseEvent}
    (sited : service.Sited) (run : exec (step hasher library query) ⟨service, []⟩ events = some final) :
    Shows library query final :=
  exec_invariant (Shows library query) (fun _ _ _ shows stepped => shows_step shows stepped)
    (shows_initial sited) run

theorem onCourse_exec {service : Service} {final : Browsing} {events : List BrowseEvent}
    {doc : SessionDoc} (sited : service.Sited)
    (member : doc ∈ matching (sessionsOf service) query.projectId query.status)
    (run : exec (step hasher library query) ⟨service, []⟩ events = some final)
    (unshared : Unshared rank (matching (sessionsOf final.service) query.projectId query.status) doc) :
    OnCourse library query doc final := by
  suffices Shows library query final ∧ (Unshared rank
      (matching (sessionsOf final.service) query.projectId query.status) doc →
      OnCourse library query doc final) from this.2 unshared
  refine exec_invariant (fun browsing => Shows library query browsing ∧ (Unshared rank
    (matching (sessionsOf browsing.service) query.projectId query.status) doc →
    OnCourse library query doc browsing)) ?_ ⟨shows_initial sited, fun _ => ?_⟩ run
  · rintro browsing event next ⟨shows, course⟩ stepped
    exact ⟨shows_step shows stepped, onCourse_step shows.sited.placed.sound.tenants stepped course⟩
  · refine Or.inr ⟨?_, fun _ sent => by cases sent⟩
    simpa [skip] using OffsetPaging.ahead_zero member

/-- Whatever happens to the service between two pages, and in whatever order sessions of one
start come. -/
theorem covers (hasher : AuthTokenRepo.PasswordHasher) (library : Library) (now : Instant)
    (clock : Clock) (earlier : List ServiceEvent) (service : Service)
    (reached : exec (Service.step hasher) (Service.initial now clock) earlier = some service)
    (query : Query) (events : List BrowseEvent) (final : Browsing)
    (run : exec (step hasher library query) ⟨service, []⟩ events = some final)
    (short : ∃ last, final.pages.getLast? = some last ∧ last.total < last.limit) :
    Covers library query service final := by
  have sited := Service.sited_reached reached
  have shows := shows_exec sited run
  refine ⟨fun record member listed unshared => ?_, fun page sent shown member => ?_,
    fun page sent shown member => getSession_shown shows sent member⟩
  · have inside : record.doc ∈ matching (sessionsOf service) query.projectId query.status :=
      List.mem_filter.mpr ⟨List.mem_map_of_mem member, listed⟩
    obtain ⟨last, ends, less⟩ := short
    rcases onCourse_exec sited inside run unshared with shown | ⟨ahead, full⟩
    · exact shown
    · exact absurd (full last ends) (Nat.not_le_of_lt less)
  · obtain ⟨record, stored, named, same⟩ := shows.records page sent shown member
    exact ⟨record, stored,
      Service.own_of_stored shows.sited stored (shows.project (List.ne_nil_of_mem sent)) named, same⟩

/-- One session, and a client that asks for one at a time. -/
theorem covers_single : ∃ service final,
    Covers SessionEvents.idleLibrary { tenantId := "t", projectId := "p", limit := 0 }
      service final ∧
    (sessionsOf service).map SessionDoc.id = ["s"] ∧
    final.pages.map SessionListResponse.total = [1, 0] := by
  let library := SessionEvents.idleLibrary
  let query : Query := { tenantId := "t", projectId := "p", limit := 0 }
  let earlier := Service.mintToken ++ Service.spendTokens 9000 Db.SECOND
  have shape : ((exec (Service.step AuthTokenRepo.plainHasher) (Service.initial 0 ⟨0, 0⟩)
      earlier).bind fun service =>
        (exec (step AuthTokenRepo.plainHasher library query) ⟨service, []⟩
          [.nextPage (sessionsOf service), .nextPage (sessionsOf service)]).map fun final =>
            ((sessionsOf service).map SessionDoc.id,
              final.pages.map fun page => (page.total, page.limit))) =
      some (["s"], [(1, 1), (0, 1)]) := by decide
  obtain ⟨service, reached, later⟩ := Option.bind_eq_some_iff.mp shape
  obtain ⟨final, run, look⟩ := Option.map_eq_some_iff.mp later
  obtain ⟨ids, sizes⟩ := Prod.mk.inj look
  obtain ⟨first, rest, pages, one, last⟩ := List.map_eq_cons_iff.mp sizes
  obtain ⟨second, none, rfl, two, empty⟩ := List.map_eq_cons_iff.mp last
  obtain rfl := List.map_eq_nil_iff.mp empty
  obtain ⟨total, limit⟩ := Prod.mk.inj two
  refine ⟨service, final, ?_, ids, ?_⟩
  · refine covers AuthTokenRepo.plainHasher library 0 ⟨0, 0⟩ earlier service reached query _ final
      run ⟨second, by rw [pages]; rfl, ?_⟩
    rw [total, limit]
    exact Nat.zero_lt_one
  · rw [pages, List.map_cons, (Prod.mk.inj one).1, List.map_cons, total, List.map_nil]

end Browsing

end LiveChat.Api.SessionHistory
