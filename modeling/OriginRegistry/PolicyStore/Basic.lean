import OriginRegistry.Configuration.Basic
import OriginRegistry.Model.Policy

set_option autoImplicit false

namespace OriginRegistry

inductive PolicyRequest : Type → Type
  | policy (tenant : TenantId) : PolicyRequest Policy
  | setPolicy (tenant : TenantId) (policy : Policy) : PolicyRequest Unit

inductive PolicyMethod
  | policy
  | setPolicy
  deriving DecidableEq, Repr

def PolicyRequest.method {α : Type} : PolicyRequest α → PolicyMethod
  | .policy _ => .policy
  | .setPolicy _ _ => .setPolicy

structure PolicyStore (σ : Type) where
  priority : Int32
  answer : {α : Type} → PolicyRequest α → Action σ ConfigurationError α

namespace PolicyStore

variable {σ τ : Type}

def zoom (get : τ → σ) (put : σ → τ → τ) (s : PolicyStore σ) : PolicyStore τ :=
  { priority := s.priority, answer := fun request => (s.answer request).zoom get put }

def watched (note : {α : Type} → PolicyRequest α → σ → σ) (s : PolicyStore σ) : PolicyStore σ :=
  { priority := s.priority
    answer := fun request => do
      Action.note (note request)
      s.answer request }

def failing (fault? : PolicyMethod → Option ConfigurationError) (s : PolicyStore σ) : PolicyStore σ :=
  { priority := s.priority
    answer := fun request =>
      match fault? request.method with
      | some e => Action.answer (.error e)
      | none => s.answer request }

def fixed (priority : Int32) (policy : Policy) : PolicyStore σ :=
  { priority
    answer := fun request =>
      match request with
      | .policy _ => pure policy
      | .setPolicy _ _ => pure () }

end PolicyStore

end OriginRegistry
