import OriginRegistry.Database.Basic

set_option autoImplicit false

namespace OriginRegistry

/-- An origin with one of its applications, or without any. -/
structure JoinedRow where
  id : OriginId
  externalId : ExternalId
  origin : String
  tenantLevel : Bool
  application : Option Application
  deriving DecidableEq, Repr

namespace RegisteredOrigin

def rows (o : RegisteredOrigin) : List JoinedRow :=
  match o.applications with
  | [] => [⟨o.id, o.externalId, o.origin, o.tenantLevel, none⟩]
  | applications => applications.map fun a => ⟨o.id, o.externalId, o.origin, o.tenantLevel, some a⟩

/-- The origins of joined rows in which the rows of each origin are neighbours. -/
def collect : List JoinedRow → List RegisteredOrigin
  | [] => []
  | row :: rows =>
    let alone : RegisteredOrigin :=
      ⟨row.id, row.externalId, row.origin, row.tenantLevel, row.application.toList⟩
    match collect rows with
    | [] => [alone]
    | o :: origins =>
      if o.id = row.id then
        { alone with applications := row.application.toList ++ o.applications } :: origins
      else alone :: o :: origins

end RegisteredOrigin

namespace Database

def application? (db : Database) (id : ApplicationId) : Option Application :=
  (db.applications.find? fun r => r.application.id = id).map ApplicationRow.application

def joinOrigin (db : Database) (o : OriginRow) : List JoinedRow :=
  let row (application : Option Application) : JoinedRow :=
    ⟨o.id, o.externalId, o.origin.text, o.tenantLevel, application⟩
  match db.associations.filter fun a => a.origin = o.id with
  | [] => [row none]
  | associations => associations.map fun a => row (db.application? a.application)

def joined (db : Database) (p : OriginRow → Bool) : List JoinedRow :=
  (db.origins.filter p).flatMap db.joinOrigin

def listing (db : Database) (p : OriginRow → Bool) : List RegisteredOrigin :=
  RegisteredOrigin.collect (db.joined p)

def applicationsOf (db : Database) (id : OriginId) : List Application :=
  (db.applications.map ApplicationRow.application).filter fun a =>
    db.associations.any fun x => x.origin = id && x.application = a.id

end Database

end OriginRegistry
