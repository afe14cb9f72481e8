import OriginRegistry.Database.Basic

set_option autoImplicit false

namespace OriginRegistry.Database

def isUsed (db : Database) (id : OriginId) : Bool := db.associations.any fun a => a.origin = id

/-- An origin of no use: neither of tenant level nor used by an application. -/
def isDangling (db : Database) (o : OriginRow) : Bool := !o.tenantLevel && !db.isUsed o.id

def clearTenantLevel (db : Database) (tenant : TenantId) : Except DatabaseError Database := do
  db.need [.origin]
  return { db with
    origins := db.origins.map fun o => if o.tenant = tenant then { o with tenantLevel := false } else o }

def clearTenantLevelOf (db : Database) (tenant : TenantId) (id : OriginId) :
    Except DatabaseError Database := do
  db.need [.origin]
  return { db with
    origins := db.origins.map fun o =>
      if o.id = id ∧ o.tenant = tenant then { o with tenantLevel := false } else o }

def markTenantLevel (db : Database) (id : OriginId) : Except DatabaseError Database := do
  db.need [.origin]
  return { db with
    origins := db.origins.map fun o => if o.id = id then { o with tenantLevel := true } else o }

def removeDangling (db : Database) (tenant : TenantId) : Except DatabaseError Database := do
  db.need [.origin, .association]
  db.needBelow .origin 1
  return { db with origins := db.origins.filter fun o => !(o.tenant = tenant && db.isDangling o) }

def originOf? (db : Database) (tenant : TenantId) (origin : Origin) :
    Except DatabaseError (Option OriginId) := do
  db.need [.origin]
  return (db.origins.find? fun o => o.tenant = tenant && o.origin = origin).map OriginRow.id

def nextOriginId (db : Database) : Except DatabaseError OriginId :=
  if db.lastOrigin < largestKey then .ok ⟨Int64.ofNat (db.lastOrigin + 1)⟩ else .error .full

def insertOrigin (source : Source) (db : Database) (tenant : TenantId) (origin : Origin)
    (tenantLevel : Bool) : Except DatabaseError (OriginId × Database) := do
  db.need [.origin]
  let id ← db.nextOriginId
  let externalId : ExternalId := ⟨source.name db.drawn⟩
  if db.origins.any fun o => o.tenant = tenant && o.origin = origin then
    throw (.duplicate .originText)
  if db.origins.any fun o => o.externalId = externalId then throw (.duplicate .originExternalId)
  return (id,
    { db with
      origins := db.origins ++ [⟨id, tenant, origin, externalId, tenantLevel⟩]
      lastOrigin := db.lastOrigin + 1
      drawn := db.drawn + 1 })

def placeAssociation (a : Association) : List Association → List Association
  | [] => [a]
  | b :: rest =>
    if a.application.val < b.application.val then a :: b :: rest else b :: placeAssociation a rest

def associate (db : Database) (origin : OriginId) (application : ApplicationId) :
    Except DatabaseError Database := do
  db.need [.association]
  db.needParents .association
  if db.associations.contains ⟨origin, application⟩ then throw (.duplicate .association)
  if db.origins.all fun o => o.id ≠ origin then throw .missingParent
  if db.applications.all fun r => r.application.id ≠ application then throw .missingParent
  return { db with associations := placeAssociation ⟨origin, application⟩ db.associations }

def dissociate (db : Database) (origin : OriginId) (application : ApplicationId) :
    Except DatabaseError Database := do
  db.need [.association]
  db.needParents .association
  return { db with
    associations := db.associations.filter fun a => !(a.origin = origin && a.application = application) }

def dissociateAll (db : Database) (tenant : TenantId) (application : ApplicationId) :
    Except DatabaseError Database := do
  db.need [.association, .origin]
  db.needParents .association
  return { db with
    associations := db.associations.filter fun a =>
      !(a.application = application && db.origins.any fun o => o.id = a.origin && o.tenant = tenant) }

end OriginRegistry.Database
