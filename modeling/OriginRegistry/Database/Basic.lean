import OriginRegistry.Database.Error
import OriginRegistry.Database.Table
import OriginRegistry.Model.RegisteredOrigin
import OriginRegistry.Model.Resource
import OriginRegistry.Origin

set_option autoImplicit false

namespace OriginRegistry

structure TenantRow where
  id : TenantId
  domain : String
  deriving DecidableEq, Repr

structure ApplicationRow where
  tenant : TenantId
  application : Application
  deriving DecidableEq, Repr

structure OriginRow where
  id : OriginId
  tenant : TenantId
  origin : Origin
  externalId : ExternalId
  tenantLevel : Bool
  deriving DecidableEq, Repr

structure Association where
  origin : OriginId
  application : ApplicationId
  deriving DecidableEq, Repr

structure ResourceRow where
  id : String
  tenant : TenantId
  typeId : String
  name : String
  createdAt : Moment
  lastModified : Moment
  deriving DecidableEq, Repr

structure AttributeRow where
  resource : String
  entry : Attribute
  deriving DecidableEq, Repr

/-- Applications and associations are kept in ascending order of the application's key, the other rows in the
    order in which they came. `lastApplication` and `lastOrigin` are the greatest keys there ever were, and
    `drawn` counts what was taken from the `Source`. -/
structure Database where
  tenants : List TenantRow := []
  applications : List ApplicationRow := []
  lastApplication : Nat := 0
  origins : List OriginRow := []
  lastOrigin : Nat := 0
  associations : List Association := []
  resourceTypes : List ResourceType := []
  resources : List ResourceRow := []
  attributes : List AttributeRow := []
  drawn : Nat := 0
  dropped : List Table := []
  deriving Repr

/-- Where new names and the time come from. -/
structure Source where
  name : Nat → String
  moment : Nat → Moment

def largestKey : Nat := 0x7fffffffffffffff

namespace Database

def empty : Database := {}

def has (db : Database) (t : Table) : Bool := !db.dropped.contains t

/-- The tables of a statement are looked up in turn. -/
def need (db : Database) (tables : List Table) : Except DatabaseError Unit :=
  match tables.find? fun t => !db.has t with
  | some t => .error (.missingTable t.name)
  | none => .ok ()

def needParents (db : Database) (t : Table) : Except DatabaseError Unit :=
  match t.parents.find? fun p => !db.has p with
  | some p => .error (.missingTable s!"main.{p.name}")
  | none => .ok ()

/-- Deleting rows deletes those of the tables below, down to `depth` levels. -/
def needBelow (db : Database) (t : Table) : Nat → Except DatabaseError Unit
  | 0 => .ok ()
  | depth + 1 => t.children.forM fun c =>
      if db.has c then do
        db.needParents c
        db.needBelow c depth
      else .ok ()

end Database

end OriginRegistry
