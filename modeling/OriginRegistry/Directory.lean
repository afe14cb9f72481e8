import OriginRegistry.Database.Pool

set_option autoImplicit false

namespace OriginRegistry

namespace Database

def freeTenantId (db : Database) : TenantId :=
  let keys := (List.range (db.tenants.length + 1)).map fun n => Int64.ofNat (n + 1)
  ⟨(keys.find? fun key => db.tenants.all fun t => t.id.val ≠ key).getD 0⟩

/-- One more than the greatest key of a tenant. When no greater one is left, the database draws keys at random until one
    is free; the least free one stands for it here. -/
def nextTenantId (db : Database) : TenantId :=
  match (db.tenants.map fun t => t.id.val.toInt).max? with
  | none => ⟨1⟩
  | some n => if n < (largestKey : Int) then ⟨Int64.ofInt (n + 1)⟩ else db.freeTenantId

def insertTenant (db : Database) (id : TenantId) (domain : String) : Except DatabaseError Database :=
  if db.tenants.any fun t => t.id = id then .error (.duplicate .tenantId)
  else if db.tenants.any fun t => t.domain = domain then .error (.duplicate .tenantDomain)
  else .ok { db with tenants := db.tenants ++ [⟨id, domain⟩] }

def nextApplicationId (db : Database) : Except DatabaseError ApplicationId :=
  if db.lastApplication < largestKey then .ok ⟨Int64.ofNat (db.lastApplication + 1)⟩ else .error .full

def placeApplication (row : ApplicationRow) : List ApplicationRow → List ApplicationRow
  | [] => [row]
  | r :: rows =>
    if row.application.id.val < r.application.id.val then row :: r :: rows else r :: placeApplication row rows

def insertApplication (db : Database) (row : ApplicationRow) : Except DatabaseError Database :=
  let taken (p : ApplicationRow → Bool) := db.applications.any p
  if taken fun r => r.application.id = row.application.id then .error (.duplicate .applicationId)
  else if taken fun r => r.tenant = row.tenant && r.application.name = row.application.name then
    .error (.duplicate .applicationName)
  else if taken fun r => r.application.resourceId = row.application.resourceId then
    .error (.duplicate .applicationResource)
  else if db.tenants.all fun t => t.id ≠ row.tenant then .error .missingParent
  else
    .ok
      { db with
        applications := placeApplication row db.applications
        lastApplication := max db.lastApplication row.application.id.val.toInt.toNat }

def tenantOf? (db : Database) (domain : String) : Option TenantId :=
  (db.tenants.find? fun t => t.domain = domain).map TenantRow.id

def applicationOf? (db : Database) (domain resourceId : String) : Option Application :=
  (db.applications.find? fun r =>
    r.application.resourceId = resourceId &&
      db.tenants.any fun t => t.id = r.tenant && t.domain = domain).map ApplicationRow.application

end Database

namespace Directory

def tenantFailure (domain : String) (e : DatabaseError) : StorageError :=
  .operationFailed .resolveTenant domain e.message

def applicationFailure (resourceId : String) (e : DatabaseError) : StorageError :=
  .operationFailed .resolveApplication resourceId e.message

def statement {α : Type} (failure : DatabaseError → StorageError)
    (change : Database → Except DatabaseError (α × Database)) : Action Pool StorageError α :=
  Pool.transact failure fun db => (change db).mapError failure

def registerTenant (domain : String) : Action Pool StorageError TenantId :=
  statement (tenantFailure domain) fun db => do
    db.need [.tenant]
    let id := db.nextTenantId
    return (id, ← db.insertTenant id domain)

def registerTenantWithId (id : TenantId) (domain : String) : Action Pool StorageError TenantId :=
  statement (tenantFailure domain) fun db => do
    db.need [.tenant]
    return (id, ← db.insertTenant id domain)

def registerApplication (tenant : TenantId) (resourceId name : String) :
    Action Pool StorageError Application :=
  statement (applicationFailure resourceId) fun db => do
    db.need [.application]
    db.needParents .application
    let application : Application := ⟨← db.nextApplicationId, resourceId, name⟩
    return (application, ← db.insertApplication ⟨tenant, application⟩)

def registerApplicationWithId (id : ApplicationId) (tenant : TenantId) (resourceId name : String) :
    Action Pool StorageError Application :=
  statement (applicationFailure resourceId) fun db => do
    db.need [.application]
    db.needParents .application
    return (⟨id, resourceId, name⟩, ← db.insertApplication ⟨tenant, id, resourceId, name⟩)

def tenantId (domain : String) : Action Pool StorageError (Option TenantId) :=
  Pool.query (tenantFailure domain) fun db =>
    (do
      db.need [.tenant]
      return db.tenantOf? domain : Except DatabaseError _).mapError (tenantFailure domain)

def applicationByResourceId (domain resourceId : String) :
    Action Pool StorageError (Option Application) :=
  Pool.query (applicationFailure resourceId) fun db =>
    (do
      db.need [.application, .tenant]
      return db.applicationOf? domain resourceId : Except DatabaseError _).mapError
        (applicationFailure resourceId)

end Directory

structure Resolvers (σ : Type) where
  tenant : String → Action σ StorageError (Option TenantId)
  application : String → String → Action σ StorageError (Option Application)

def Directory.resolvers : Resolvers Pool :=
  { tenant := Directory.tenantId, application := Directory.applicationByResourceId }

def Resolvers.zoom {σ τ : Type} (get : τ → σ) (put : σ → τ → τ) (r : Resolvers σ) : Resolvers τ :=
  { tenant := fun domain => (r.tenant domain).zoom get put
    application := fun domain resourceId => (r.application domain resourceId).zoom get put }

end OriginRegistry
