set_option autoImplicit false

namespace OriginRegistry

inductive Table
  | tenant
  | application
  | origin
  | association
  | resourceType
  | resource
  | attribute
  | history
  deriving DecidableEq, Repr

namespace Table

def name : Table → String
  | .tenant => "tenant"
  | .application => "sp_app"
  | .origin => "cors_origin"
  | .association => "cors_association"
  | .resourceType => "config_resource_type"
  | .resource => "config_resource"
  | .attribute => "config_attribute"
  | .history => "_sqlx_migrations"

def all : List Table :=
  [.tenant, .application, .origin, .association, .resourceType, .resource, .attribute, .history]

/-- The tables whose rows own the rows of a table, in the order in which they are looked up. -/
def parents : Table → List Table
  | .application => [.tenant]
  | .association => [.application, .origin]
  | .resource => [.resourceType]
  | .attribute => [.resource]
  | _ => []

def children (t : Table) : List Table := all.filter fun c => c.parents.contains t

def sameName (a b : String) : Bool := a.toList.map Char.toLower == b.toList.map Char.toLower

def ofName? (s : String) : Option Table := all.find? fun t => sameName t.name s

end Table

end OriginRegistry
