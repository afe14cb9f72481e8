import OriginRegistry.Management.Service
import OriginRegistry.PolicyStore.Resources
import OriginRegistry.Configuration.Tables
import OriginRegistry.Proofs.Directory.Lookup
import OriginRegistry.Proofs.OriginStore.Requests

set_option autoImplicit false

namespace OriginRegistry

inductive ChangeKind
  | set
  | add
  | delete
  deriving DecidableEq, Repr

/-- A change of the origins of a tenant, or of an application of the tenant. The items are texts of origins, or
    external ids where origins are to be deleted. -/
structure OriginChange where
  kind : ChangeKind
  domain : String
  resourceId? : Option String
  items : List String
  deriving DecidableEq, Repr

inductive ManagementRequest : Type → Type
  | tenantOrigins (domain : String) : ManagementRequest (List RegisteredOrigin)
  | applicationOrigins (domain resourceId : String) : ManagementRequest (List RegisteredOrigin)
  | originApplications (id : String) : ManagementRequest (List Application)
  | change (c : OriginChange) : ManagementRequest Unit
  | policy (domain : String) : ManagementRequest Policy
  | setPolicy (domain : String) (p : Policy) : ManagementRequest Unit

namespace Management

variable {σ : Type} (m : Management σ)

def change (c : OriginChange) : Action σ ManagementError Unit :=
  match c.kind, c.resourceId? with
  | .set, none => m.setTenantOrigins c.domain c.items
  | .set, some resourceId => m.setApplicationOrigins c.domain resourceId c.items
  | .add, none => m.addTenantOrigins c.domain c.items
  | .add, some resourceId => m.addApplicationOrigins c.domain resourceId c.items
  | .delete, none => m.deleteTenantOrigins c.domain c.items
  | .delete, some resourceId => m.deleteApplicationOrigins c.domain resourceId c.items

def answer {α : Type} : ManagementRequest α → Action σ ManagementError α
  | .tenantOrigins domain => m.tenantOrigins domain
  | .applicationOrigins domain resourceId => m.applicationOrigins domain resourceId
  | .originApplications id => m.originApplications id
  | .change c => m.change c
  | .policy domain => m.policy domain
  | .setPolicy domain p => m.setPolicy domain p

def onTables (source : Source) : Management Pool :=
  let m : Management Pool := { resolvers := Directory.resolvers }
  (m.withOriginStore (OriginStore.Tables.store source)).withPolicyStore
    (PolicyStore.Resources.store (ConfigurationManager.Tables.manager source))

end Management

namespace Database

def shownFor (db : Database) (tenant : TenantId) : Scope → OriginRow → Bool
  | .tenantLevel => fun o => o.tenant = tenant
  | .application a => fun o => o.tenant = tenant && db.associations.contains ⟨o.id, a⟩

def findTenant (db : Database) (domain : String) : Except ManagementError TenantId :=
  if Text.blank domain then .error (.invalidTenantDomain domain)
  else
    match db.tenantOf? domain with
    | some id => .ok id
    | none => .error (.invalidTenantDomain domain)

def findApplication (db : Database) (domain resourceId : String) : Except ManagementError ApplicationId :=
  if Text.blank resourceId then .error (.invalidApplicationId resourceId)
  else
    match db.applicationOf? domain resourceId with
    | some application => .ok application.id
    | none => .error (.invalidApplicationId resourceId)

def findScope (db : Database) (domain : String) : Option String → Except ManagementError Scope
  | none => .ok .tenantLevel
  | some resourceId => (db.findApplication domain resourceId).map .application

end Database

namespace OriginRequest

def listFor (tenant : TenantId) : Scope → OriginRequest (List RegisteredOrigin)
  | .tenantLevel => .byTenant tenant
  | .application a => .byApplication tenant a

def setFor (tenant : TenantId) : Scope → List Origin → OriginRequest Unit
  | .tenantLevel, origins => .setTenant tenant origins
  | .application a, origins => .setApplication tenant a origins

def addFor (tenant : TenantId) : Scope → List Origin → OriginRequest Unit
  | .tenantLevel, origins => .addTenant tenant origins
  | .application a, origins => .addApplication tenant a origins

def deleteFor (tenant : TenantId) : Scope → List OriginId → OriginRequest Unit
  | .tenantLevel, ids => .deleteTenant tenant ids
  | .application a, ids => .deleteApplication tenant a ids

end OriginRequest

namespace Management

variable {σ : Type} (m : Management σ)

def resolveScope (domain : String) : Option String → Action σ ManagementError Scope
  | none => pure .tenantLevel
  | some resourceId => do
    let application ← m.resolveApplication domain resourceId
    return .application application

def changeFor (c : OriginChange) (tenant : TenantId) (scope : Scope) : Action σ ManagementError Unit :=
  match c.kind with
  | .set => do
    let origins ← Action.answer (readOrigins c.items)
    m.ask c.domain (.setFor tenant scope origins)
  | .add => do
    let origins ← Action.answer (readOrigins c.items)
    let existing ← m.ask c.domain (.listFor tenant scope)
    Action.answer (checkNew c.domain existing origins)
    m.ask c.domain (.addFor tenant scope origins)
  | .delete => do
    let existing ← m.ask c.domain (.listFor tenant scope)
    let ids ← Action.answer (internalIds c.domain existing c.items)
    m.ask c.domain (.deleteFor tenant scope ids)

/-- The six changes differ in kind and scope only. -/
theorem change_eq (c : OriginChange) :
    m.change c = (do
      let tenant ← m.resolveTenant c.domain
      let scope ← m.resolveScope c.domain c.resourceId?
      m.changeFor c tenant scope) := by
  obtain ⟨kind, domain, resourceId?, items⟩ := c
  cases resourceId? with
  | none => cases kind <;> rfl
  | some resourceId =>
    simp only [resolveScope, bind_assoc, pure_bind]
    cases kind <;> rfl

end Management

/-- What is left of a change once it is checked, or why it is refused. -/
def OriginChange.plan (db : Database) (c : OriginChange) : Except ManagementError (OriginRequest Unit) := do
  let tenant ← db.findTenant c.domain
  let scope ← db.findScope c.domain c.resourceId?
  match c.kind with
  | .set => do
    let origins ← Management.readOrigins c.items
    return .setFor tenant scope origins
  | .add => do
    let origins ← Management.readOrigins c.items
    Management.checkNew c.domain (db.listing (db.shownFor tenant scope)) origins
    return .addFor tenant scope origins
  | .delete => do
    let ids ← Management.internalIds c.domain (db.listing (db.shownFor tenant scope)) c.items
    return .deleteFor tenant scope ids

namespace Management

open OriginStore.Tables

variable {source : Source} {db : Database}

theorem run_resolveTenant (h : db.Intact) (domain : String) :
    ((onTables source).resolveTenant domain).run ⟨db, true⟩ = (db.findTenant domain, ⟨db, true⟩) := by
  have asked := h.run_tenantId domain
  unfold resolveTenant Database.findTenant
  split
  · rfl
  · change ((Directory.tenantId domain).mapError _ >>= _).run _ = _
    rw [Action.run_bind, Action.run_mapError, asked]
    cases db.tenantOf? domain <;> rfl

theorem run_resolveApplication (h : db.Intact) (domain resourceId : String) :
    ((onTables source).resolveApplication domain resourceId).run ⟨db, true⟩ =
      (db.findApplication domain resourceId, ⟨db, true⟩) := by
  have asked := h.run_applicationByResourceId domain resourceId
  unfold resolveApplication Database.findApplication
  split
  · rfl
  · change ((Directory.applicationByResourceId domain resourceId).mapError _ >>= _).run _ = _
    rw [Action.run_bind, Action.run_mapError, asked]
    cases db.applicationOf? domain resourceId <;> rfl

theorem run_ask {α : Type} (key : String) (request : OriginRequest α) (p : Pool) :
    ((onTables source).ask key request).run p = (((store source).answer request).mapError (.storage key)).run p := rfl

theorem run_resolveScope (h : db.Intact) (domain : String) (resourceId? : Option String) :
    ((onTables source).resolveScope domain resourceId?).run ⟨db, true⟩ =
      (db.findScope domain resourceId?, ⟨db, true⟩) := by
  cases resourceId? with
  | none => rfl
  | some resourceId =>
    simp only [resolveScope, Action.run_bind, run_resolveApplication h, Database.findScope]
    cases db.findApplication domain resourceId <;> rfl

theorem run_list (h : db.Intact) (key : String) (tenant : TenantId) (scope : Scope) :
    ((onTables source).ask key (.listFor tenant scope)).run ⟨db, true⟩ =
      (.ok (db.listing (db.shownFor tenant scope)), ⟨db, true⟩) := by
  rw [run_ask, Action.run_mapError]
  cases scope with
  | tenantLevel =>
    change (((OriginStore.Tables.byTenant tenant).run ⟨db, true⟩).1.mapError _, _) = _
    rw [OriginRequest.run_byTenant h]
    rfl
  | application a =>
    change (((OriginStore.Tables.byApplication tenant a).run ⟨db, true⟩).1.mapError _, _) = _
    rw [OriginRequest.run_byApplication h]
    rfl

theorem resolveTenant_reads (domain : String) : ((onTables source).resolveTenant domain).Reads := by
  unfold resolveTenant
  split
  · exact fun _ => rfl
  · have asked : (Directory.tenantId domain).Reads := Pool.query_reads _ _
    change ((Directory.tenantId domain).mapError _ >>= _).Reads
    refine (asked.mapError _).bind fun found => ?_
    cases found <;> exact fun _ => rfl

theorem resolveApplication_reads (domain resourceId : String) :
    ((onTables source).resolveApplication domain resourceId).Reads := by
  unfold resolveApplication
  split
  · exact fun _ => rfl
  · have asked : (Directory.applicationByResourceId domain resourceId).Reads := Pool.query_reads _ _
    change ((Directory.applicationByResourceId domain resourceId).mapError _ >>= _).Reads
    refine (asked.mapError _).bind fun found => ?_
    cases found <;> exact fun _ => rfl

theorem resolveScope_reads (domain : String) (resourceId? : Option String) :
    ((onTables source).resolveScope domain resourceId?).Reads := by
  cases resourceId? with
  | none => exact fun _ => rfl
  | some resourceId => exact (resolveApplication_reads domain resourceId).bind fun _ _ => rfl

theorem list_reads (key : String) (tenant : TenantId) (scope : Scope) :
    ((onTables source).ask key (.listFor tenant scope)).Reads := by
  cases scope <;> exact fun _ => rfl

def Follows (source : Source) (db : Database) (c : OriginChange) : Prop :=
  ((onTables source).change c).run ⟨db, true⟩ =
    match c.plan db with
    | .ok request => ((onTables source).ask c.domain request).run ⟨db, true⟩
    | .error e => (.error e, ⟨db, true⟩)

theorem change_follows (h : db.Intact) (c : OriginChange) : Follows source db c := by
  unfold Follows OriginChange.plan
  rw [change_eq, Action.run_bind, run_resolveTenant h]
  cases db.findTenant c.domain with
  | error e => rfl
  | ok tenant =>
    simp only [ok_bind, Action.run_bind, run_resolveScope h]
    cases db.findScope c.domain c.resourceId? with
    | error e => rfl
    | ok scope =>
      simp only [ok_bind, changeFor]
      cases c.kind with
      | set =>
        simp only [Action.run_bind, Action.run_answer]
        cases readOrigins c.items <;> rfl
      | add =>
        simp only [Action.run_bind, Action.run_answer]
        cases readOrigins c.items with
        | error e => rfl
        | ok origins =>
          simp only [ok_bind, run_list h]
          cases checkNew c.domain (db.listing (db.shownFor tenant scope)) origins <;> rfl
      | delete =>
        simp only [Action.run_bind, Action.run_answer, run_list h]
        cases internalIds c.domain (db.listing (db.shownFor tenant scope)) c.items <;> rfl

theorem run_change_refused (h : db.Intact) {c : OriginChange} {e : ManagementError} (refused : c.plan db = .error e) :
    ((onTables source).change c).run ⟨db, true⟩ = (.error e, ⟨db, true⟩) := by
  have follows : Follows source db c := change_follows h c
  rw [Follows, refused] at follows
  exact follows

theorem run_change_planned (h : db.Intact) {c : OriginChange} {request : OriginRequest Unit}
    (planned : c.plan db = .ok request) :
    ((onTables source).change c).run ⟨db, true⟩ =
      match request.changeIn source db with
      | .ok after => (.ok (), ⟨after, true⟩)
      | .error e => (.error (.storage c.domain e), ⟨db, true⟩) := by
  have follows : Follows source db c := change_follows h c
  rw [Follows, planned] at follows
  rw [follows]
  simp only [run_ask, Action.run_mapError]
  cases changed : request.changeIn source db with
  | ok after =>
    obtain ⟨x, ran⟩ := OriginRequest.answer_ok h changed
    rw [ran]
    rfl
  | error e =>
    rw [OriginRequest.answer_error changed]
    rfl

end Management

end OriginRegistry
