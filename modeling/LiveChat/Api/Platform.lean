import LiveChat.Api.Projects
import LiveChat.Core.SessionManager

/-!
# The service as a whole

The project store and the session manager of one node, driven by the REST endpoints of
`api/projects.py` and by the handshakes of `api/chat.py`.  Every tenant has a fixed
plan.  `create_project` takes two steps, the count and the insertion.  A handshake is
a `ReadCall` of the project store; once the call has returned a configuration,
`ws_chat` hands it to `get_or_create`, unless one of the other checks of
`_resolve_project` closed the socket.  `connected` lists the handshakes that did.
-/

set_option autoImplicit false

namespace LiveChat.Api

open LiveChat.Core
open LiveChat.Core.PlanLimits (Plan)
open LiveChat.Core.SessionManager (Node NodeEvent)
open LiveChat.Repositories.ProjectRepo (RepoEvent Write)
open LiveChat.Api.Projects

/-- A `create_project` call that passed the project limit. -/
structure CreateCall where
  tenantId : String
  body : CreateProjectRequest

structure Platform where
  repo : Repositories.ProjectRepo.State
  node : Node
  creates : List CreateCall := []
  connected : List Nat := []

inductive PlatformEvent where
  | createProject (tenantId : String) (body : CreateProjectRequest)
  | insertProject (create : Nat) (id : String)
  /-- An edit up to its `update_one`. -/
  | edit (tenantId projectId : String) (edit : Edit) (updatedAt : Instant)
  /-- A step of a call in flight, or the start of a handshake's `get_config` call. -/
  | store (event : RepoEvent)
  | connect (read : Nat) (sessionId apiKeyId : String)
  | node (event : NodeEvent)

/-- The commands that only the endpoints issue. -/
def writesProject : RepoEvent → Bool
  | .create _ | .updateOne .. => true
  | _ => false

def opensSession : NodeEvent → Bool
  | .getOrCreate .. => true
  | _ => false

namespace Platform

def initial (now : Instant) (clock : Clock) : Platform :=
  { repo := .initial now, node := .initial clock }

def withRepo (platform : Platform) (repo : Repositories.ProjectRepo.State) : Platform :=
  { platform with repo := repo }

def withNode (platform : Platform) (node : Node) : Platform := { platform with node := node }

def step (plan : String → Plan) (platform : Platform) : PlatformEvent → Option Platform
  | .createProject tenantId body =>
      match admitProject (plan tenantId) (platform.repo.store.listForTenant tenantId 1000) with
      | .error _ => some platform
      | .ok _ => some { platform with creates := platform.creates ++ [⟨tenantId, body⟩] }
  | .insertProject create id =>
      match platform.creates[create]? with
      | none => none
      | some call =>
          let doc := newProject call.tenantId (plan call.tenantId) call.body id
            platform.repo.store.now
          (platform.repo.step (.create doc)).map fun repo =>
            { platform.withRepo repo with creates := platform.creates.eraseIdx create }
  | .edit tenantId projectId edit updatedAt =>
      match getProjectOr404 (platform.repo.store.getById projectId (some tenantId)) projectId with
      | .error _ => some platform
      | .ok _ =>
          match edit.fields (plan tenantId) with
          | .error _ => some platform
          | .ok fields =>
              (platform.repo.step (.updateOne projectId tenantId (.update fields) updatedAt)).map
                platform.withRepo
  | .store event =>
      if writesProject event then none
      else (platform.repo.step event).map platform.withRepo
  | .connect read sessionId apiKeyId =>
      match platform.repo.reads[read]? with
      | some ⟨_, _, _, .returned (some project)⟩ =>
          if read ∈ platform.connected then none
          else
            (platform.node.step (.getOrCreate sessionId project apiKeyId)).map fun node =>
              { platform.withNode node with connected := read :: platform.connected }
      | _ => none
  | .node event =>
      if opensSession event then none
      else (platform.node.step event).map platform.withNode

end Platform

end LiveChat.Api
