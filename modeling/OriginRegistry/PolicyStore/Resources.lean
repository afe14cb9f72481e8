import OriginRegistry.PolicyStore.Basic

/-!
The store of policies in resources. Each field is an attribute whose value is the written form of the field, so
that a field without an attribute has its standard value.
-/

set_option autoImplicit false

namespace OriginRegistry

namespace Policy

def toAttributes (p : Policy) : List Attribute :=
  (Json.sortMembers p.members).map fun (name, value) => ⟨name, value.print⟩

/-- The policy of some attributes. Each value has to be readable, and that of a field has to fit it. -/
def ofAttributes (attributes : List Attribute) : Except Json.Error Policy := do
  let members ← attributes.mapM fun a => do
    return (a.key, ← Json.parse a.value)
  codec.ofDictionary (.object members)

end Policy

namespace PolicyStore.Resources

def typeName : String := "CORS_CONFIGURATION"

def typeDraft : ResourceTypeDraft := ⟨typeName, some "Tenant CORS behaviour settings"⟩

def resourceName : String := "corsConfiguration"

variable {σ : Type}

def policy (m : ConfigurationManager σ) (tenant : TenantId) : Action σ ConfigurationError Policy := do
  match ← m.resource? tenant typeName resourceName with
  | some r => Action.answer ((Policy.ofAttributes r.attributes).mapError .unreadable)
  | none => return Policy.standard

def setPolicy (m : ConfigurationManager σ) (tenant : TenantId) (p : Policy) :
    Action σ ConfigurationError Unit := do
  let _ ← m.ensureType typeDraft
  let _ ← m.answer (.replace tenant typeName ⟨resourceName, p.toAttributes⟩)

def store (m : ConfigurationManager σ) : PolicyStore σ :=
  { priority := 1
    answer := fun request =>
      match request with
      | .policy tenant => policy m tenant
      | .setPolicy tenant p => setPolicy m tenant p }

end PolicyStore.Resources

end OriginRegistry
