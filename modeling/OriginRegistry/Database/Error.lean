set_option autoImplicit false

namespace OriginRegistry

/-- Columns in which no two rows of a table agree. -/
inductive UniqueKey
  | tenantId
  | tenantDomain
  | applicationId
  | applicationResource
  | applicationName
  | originText
  | originExternalId
  | association
  | resourceTypeId
  | resourceId
  | attributeKey
  deriving DecidableEq, Repr

namespace UniqueKey

def columns : UniqueKey → String
  | .tenantId => "tenant.id"
  | .tenantDomain => "tenant.domain"
  | .applicationId => "sp_app.id"
  | .applicationResource => "sp_app.uuid"
  | .applicationName => "sp_app.tenant_id, sp_app.app_name"
  | .originText => "cors_origin.tenant_id, cors_origin.origin"
  | .originExternalId => "cors_origin.uuid"
  | .association => "cors_association.cors_origin_id, cors_association.sp_app_id"
  | .resourceTypeId => "config_resource_type.id"
  | .resourceId => "config_resource.id"
  | .attributeKey => "config_attribute.resource_id, config_attribute.attr_key"

def isPrimary : UniqueKey → Bool
  | .tenantId | .applicationId | .association | .resourceTypeId | .resourceId => true
  | _ => false

end UniqueKey

inductive DatabaseError
  | closed
  | duplicate (key : UniqueKey)
  | missingParent
  | missingTable (name : String)
  | protectedTable (name : String)
  | full
  | cannotOpen
  | unreadable
  | readOnly
  | unknownFileSystem (name : String)
  | unknownAuthority (name : String)
  | noRow
  deriving DecidableEq, Repr

namespace DatabaseError

def coded (code : Nat) (message : String) : String :=
  s!"error returned from database: (code: {code}) {message}"

def message : DatabaseError → String
  | .closed => "attempted to acquire a connection on a closed pool"
  | .duplicate key =>
    coded (if key.isPrimary then 1555 else 2067) s!"UNIQUE constraint failed: {key.columns}"
  | .missingParent => coded 787 "FOREIGN KEY constraint failed"
  | .missingTable name => coded 1 s!"no such table: {name}"
  | .protectedTable name => coded 1 s!"table {name} may not be dropped"
  | .full => coded 13 "database or disk is full"
  | .cannotOpen => coded 14 "unable to open database file"
  | .unreadable => coded 266 "disk I/O error"
  | .readOnly => coded 8 "attempt to write a readonly database"
  | .unknownFileSystem name => coded 1 s!"no such vfs: {name}"
  | .unknownAuthority name => coded 1 s!"invalid uri authority: {name}"
  | .noRow => "no rows returned by a query that expected to return at least one row"

end DatabaseError

end OriginRegistry
