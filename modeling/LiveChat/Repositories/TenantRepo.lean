import Mathlib.Data.List.AList
import LiveChat.Core.Schemas

/-!
# Tenants

`repositories/tenant_repo.py`: the `tenants` collection, by `_id`, under the unique index
on `email`.
-/

set_option autoImplicit false

namespace LiveChat.Repositories.TenantRepo

open LiveChat.Core

abbrev Tenants := AList fun _ : String => TenantDoc

def getById (tenants : Tenants) (tenantId : String) : Option TenantDoc := tenants.lookup tenantId

/-- By an email in the form that is stored, `email.lower().strip()`. -/
def getByEmail (tenants : Tenants) (email : String) : Option TenantDoc :=
  (tenants.entries.map Sigma.snd).find? fun tenant => tenant.email == email

/-- The insertion of `create`; `uuid4()` is new and not empty, and a taken email is rejected
by the index. -/
def create (tenants : Tenants) (id name email : String) : Option Tenants :=
  if id = "" ∨ (tenants.lookup id).isSome ∨ (getByEmail tenants email).isSome then none
  else some (tenants.insert id { id := id, name := name, email := email })

/-- The five `update_one` methods; a tenant that does not exist is left alone. -/
def updateOne (tenants : Tenants) (tenantId : String) (change : TenantDoc → TenantDoc) : Tenants :=
  match tenants.lookup tenantId with
  | none => tenants
  | some tenant => tenants.insert tenantId (change tenant)

def updatePasswordHash (tenants : Tenants) (tenantId passwordHash : String) : Tenants :=
  updateOne tenants tenantId fun tenant => { tenant with passwordHash := passwordHash }

def updatePlan (tenants : Tenants) (tenantId : String) (plan : PlanLimits.Plan) : Tenants :=
  updateOne tenants tenantId fun tenant => { tenant with plan := plan }

def setActive (tenants : Tenants) (tenantId : String) (active : Bool) : Tenants :=
  updateOne tenants tenantId fun tenant => { tenant with isActive := active }

def suspend (tenants : Tenants) (tenantId : String) : Tenants :=
  updateOne tenants tenantId fun tenant => { tenant with isSuspended := true }

def unsuspend (tenants : Tenants) (tenantId : String) : Tenants :=
  updateOne tenants tenantId fun tenant => { tenant with isSuspended := false }

/-- Tenants are stored under their ids, which are not empty. -/
def Identified (tenants : Tenants) : Prop :=
  ∀ tenantId tenant, tenants.lookup tenantId = some tenant → tenant.id = tenantId ∧ tenantId ≠ ""

theorem identified_empty : Identified ∅ := by
  intro tenantId tenant found
  cases found

theorem identified_create {tenants next : Tenants} {id name email : String}
    (identified : Identified tenants) (created : create tenants id name email = some next) :
    Identified next := by
  unfold create at created
  split at created
  · cases created
  · rename_i fresh
    cases created
    intro tenantId tenant found
    by_cases same : tenantId = id
    · subst same
      rw [AList.lookup_insert] at found
      cases found
      exact ⟨rfl, fun empty => fresh (Or.inl empty)⟩
    · rw [AList.lookup_insert_ne same] at found
      exact identified tenantId tenant found

theorem identified_updateOne {tenants : Tenants} (identified : Identified tenants)
    (tenantId : String) {change : TenantDoc → TenantDoc}
    (kept : ∀ tenant, (change tenant).id = tenant.id) :
    Identified (updateOne tenants tenantId change) := by
  unfold updateOne
  split
  · exact identified
  · rename_i tenant stored
    intro other after found
    by_cases same : other = tenantId
    · subst same
      rw [AList.lookup_insert] at found
      cases found
      rw [kept]
      exact identified other tenant stored
    · rw [AList.lookup_insert_ne same] at found
      exact identified other after found

theorem lookup_updateOne (tenants : Tenants) (tenantId other : String)
    (change : TenantDoc → TenantDoc) :
    (updateOne tenants tenantId change).lookup other =
      if other = tenantId then (tenants.lookup other).map change else tenants.lookup other := by
  unfold updateOne
  split
  · rename_i absent
    split
    · rename_i same
      rw [same, absent]
      rfl
    · rfl
  · rename_i tenant stored
    split
    · rename_i same
      rw [same, AList.lookup_insert, stored]
      rfl
    · rename_i apart
      exact AList.lookup_insert_ne apart

end LiveChat.Repositories.TenantRepo
