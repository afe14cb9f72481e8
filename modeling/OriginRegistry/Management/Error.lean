import OriginRegistry.Configuration.Basic
import OriginRegistry.Model.StorageError
import OriginRegistry.Origin

set_option autoImplicit false

namespace OriginRegistry

inductive StoreRole
  | origins
  | policies
  deriving DecidableEq, Repr

def StoreRole.name : StoreRole → String
  | .origins => "CORS origin"
  | .policies => "CORS configuration"

inductive ManagementError
  | invalidTenantDomain (domain : String)
  | invalidApplicationId (resourceId : String)
  | alreadyRegistered (domain origin : String)
  | notPresent (domain id : String)
  | invalidOrigin (refusal : Origin.Refusal)
  | storage (key : String) (source : StorageError)
  | configuration (key : String) (source : ConfigurationError)
  | noStore (role : StoreRole)
  deriving DecidableEq, Repr

namespace ManagementError

def message : ManagementError → String
  | .invalidTenantDomain domain => s!"Invalid tenant domain: {domain}"
  | .invalidApplicationId resourceId => s!"Invalid application id: {resourceId}"
  | .alreadyRegistered domain origin => s!"Tenant {domain} already has {origin} as a CORS origin"
  | .notPresent domain id => s!"Tenant {domain} doesn't have a CORS origin with id {id}"
  | .invalidOrigin refusal => s!"Invalid CORS origin: {refusal.message}"
  | .storage key source => s!"Storage failure for {key}: {source.message}"
  | .configuration key source => s!"Configuration failure for {key}: {source.message}"
  | .noStore role => s!"No {role.name} store is registered"

def isClientError : ManagementError → Bool
  | .storage _ _ | .configuration _ _ | .noStore _ => false
  | _ => true

end ManagementError

end OriginRegistry
