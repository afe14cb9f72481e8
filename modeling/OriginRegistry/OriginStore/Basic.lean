import OriginRegistry.Action
import OriginRegistry.Model.RegisteredOrigin
import OriginRegistry.Model.StorageError
import OriginRegistry.Origin

set_option autoImplicit false

namespace OriginRegistry

inductive OriginRequest : Type → Type
  | byTenant (tenant : TenantId) : OriginRequest (List RegisteredOrigin)
  | byApplication (tenant : TenantId) (application : ApplicationId) : OriginRequest (List RegisteredOrigin)
  | byId (id : OriginId) : OriginRequest (Option RegisteredOrigin)
  | byExternalId (id : ExternalId) : OriginRequest (Option RegisteredOrigin)
  | setTenant (tenant : TenantId) (origins : List Origin) : OriginRequest Unit
  | setApplication (tenant : TenantId) (application : ApplicationId) (origins : List Origin) :
      OriginRequest Unit
  | addTenant (tenant : TenantId) (origins : List Origin) : OriginRequest Unit
  | addApplication (tenant : TenantId) (application : ApplicationId) (origins : List Origin) :
      OriginRequest Unit
  | deleteTenant (tenant : TenantId) (ids : List OriginId) : OriginRequest Unit
  | deleteApplication (tenant : TenantId) (application : ApplicationId) (ids : List OriginId) :
      OriginRequest Unit
  | applications (id : OriginId) : OriginRequest (List Application)

inductive OriginMethod
  | byTenant
  | byApplication
  | byId
  | byExternalId
  | setTenant
  | setApplication
  | addTenant
  | addApplication
  | deleteTenant
  | deleteApplication
  | applications
  deriving DecidableEq, Repr

def OriginRequest.method {α : Type} : OriginRequest α → OriginMethod
  | .byTenant _ => .byTenant
  | .byApplication _ _ => .byApplication
  | .byId _ => .byId
  | .byExternalId _ => .byExternalId
  | .setTenant _ _ => .setTenant
  | .setApplication _ _ _ => .setApplication
  | .addTenant _ _ => .addTenant
  | .addApplication _ _ _ => .addApplication
  | .deleteTenant _ _ => .deleteTenant
  | .deleteApplication _ _ _ => .deleteApplication
  | .applications _ => .applications

def OriginMethod.isRead : OriginMethod → Bool
  | .byTenant | .byApplication | .byId | .byExternalId | .applications => true
  | _ => false

structure OriginStore (σ : Type) where
  priority : Int32
  answer : {α : Type} → OriginRequest α → Action σ StorageError α

namespace OriginStore

variable {σ τ : Type}

def zoom (get : τ → σ) (put : σ → τ → τ) (s : OriginStore σ) : OriginStore τ :=
  { priority := s.priority, answer := fun request => (s.answer request).zoom get put }

def watched (note : {α : Type} → OriginRequest α → σ → σ) (s : OriginStore σ) : OriginStore σ :=
  { priority := s.priority
    answer := fun request => do
      Action.note (note request)
      s.answer request }

def failing (fault? : OriginMethod → Option StorageError) (s : OriginStore σ) : OriginStore σ :=
  { priority := s.priority
    answer := fun request =>
      match fault? request.method with
      | some e => Action.answer (.error e)
      | none => s.answer request }

def fixed (priority : Int32) (origins : List RegisteredOrigin) : OriginStore σ :=
  { priority
    answer := fun request =>
      match request with
      | .byTenant _ => pure origins
      | .byApplication _ application => pure (origins.filter fun o => o.isAssociatedWith application)
      | .byId id => pure (origins.find? fun o => o.id = id)
      | .byExternalId id => pure (origins.find? fun o => o.externalId = id)
      | .applications id =>
        pure (match origins.find? fun o => o.id = id with
          | some o => o.applications
          | none => [])
      | .setTenant _ _ => pure ()
      | .setApplication _ _ _ => pure ()
      | .addTenant _ _ => pure ()
      | .addApplication _ _ _ => pure ()
      | .deleteTenant _ _ => pure ()
      | .deleteApplication _ _ _ => pure () }

end OriginStore

end OriginRegistry
