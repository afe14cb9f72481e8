import OriginRegistry.Database.Pool
import OriginRegistry.OriginStore.Basic
import OriginRegistry.OriginStore.Listing
import OriginRegistry.OriginStore.Statements

set_option autoImplicit false

namespace OriginRegistry.OriginStore.Tables

def tenantKey (tenant : TenantId) : String := s!"tenant {tenant}"

def failure (operation : StoreOperation) (key : String) (e : DatabaseError) : StorageError :=
  .operationFailed operation key e.message

def adding (tenant : TenantId) : DatabaseError → StorageError := failure .addOrigins (tenantKey tenant)

def deleting (tenant : TenantId) : DatabaseError → StorageError :=
  failure .deleteOriginAssociations (tenantKey tenant)

def list (db : Database) (p : OriginRow → Bool) : Except DatabaseError (List RegisteredOrigin) := do
  db.need [.origin, .association, .application]
  return db.listing p

def retrieve {α : Type} (key : String) (p : Database → OriginRow → Bool)
    (select : List RegisteredOrigin → α) : Action Pool StorageError α :=
  let refuse := failure .retrieveOrigins key
  Pool.query refuse fun db => ((list db (p db)).map select).mapError refuse

def byTenant (tenant : TenantId) : Action Pool StorageError (List RegisteredOrigin) :=
  retrieve (tenantKey tenant) (fun _ o => o.tenant = tenant) id

def byApplication (tenant : TenantId) (application : ApplicationId) :
    Action Pool StorageError (List RegisteredOrigin) :=
  retrieve (tenantKey tenant)
    (fun db o => o.tenant = tenant && db.associations.contains ⟨o.id, application⟩) id

def byId (id : OriginId) : Action Pool StorageError (Option RegisteredOrigin) :=
  retrieve (toString id) (fun _ o => o.id = id) List.head?

def byExternalId (id : ExternalId) : Action Pool StorageError (Option RegisteredOrigin) :=
  retrieve (toString id) (fun _ o => o.externalId = id) List.head?

def applications (id : OriginId) : Action Pool StorageError (List Application) :=
  let refuse := failure .retrieveOriginApplications (toString id)
  Pool.query refuse fun db =>
    (do
      db.need [.application, .association]
      return db.applicationsOf id : Except DatabaseError _).mapError refuse

def change (refuse : DatabaseError → StorageError) (f : Database → Except StorageError Database) :
    Action Pool StorageError Unit :=
  Pool.transact refuse fun db => (f db).map fun db => ((), db)

/-- Makes an origin one of tenant level; it is new if the tenant has none of this text. -/
def keepAtTenantLevel (source : Source) (tenant : TenantId) (db : Database) (origin : Origin) :
    Except DatabaseError Database := do
  match ← db.originOf? tenant origin with
  | some id => db.markTenantLevel id
  | none => return (← db.insertOrigin source tenant origin true).2

def setTenantIn (source : Source) (tenant : TenantId) (origins : List Origin) (db : Database) :
    Except DatabaseError Database := do
  let db ← db.clearTenantLevel tenant
  let db ← db.removeDangling tenant
  origins.foldlM (keepAtTenantLevel source tenant) db

/-- Lets an application use an origin; it is new, and not of tenant level, if the tenant has none of this
    text. -/
def use (source : Source) (tenant : TenantId) (application : ApplicationId) (db : Database)
    (origin : Origin) : Except DatabaseError Database := do
  match ← db.originOf? tenant origin with
  | some id => db.associate id application
  | none =>
    let (id, db) ← db.insertOrigin source tenant origin false
    db.associate id application

def setApplicationIn (source : Source) (tenant : TenantId) (application : ApplicationId)
    (origins : List Origin) (db : Database) : Except DatabaseError Database := do
  let db ← db.dissociateAll tenant application
  let db ← db.removeDangling tenant
  origins.foldlM (use source tenant application) db

def addTenantIn (source : Source) (tenant : TenantId) (origins : List Origin) (db : Database) :
    Except DatabaseError Database :=
  origins.foldlM (fun db origin => do return (← db.insertOrigin source tenant origin true).2) db

def addApplicationIn (source : Source) (tenant : TenantId) (application : ApplicationId)
    (origins : List Origin) (db : Database) : Except DatabaseError Database :=
  origins.foldlM (use source tenant application) db

/-- Applies a change for each of some origins and deletes what is left without use. A failure of one names its
    key. -/
def deleteEach (tenant : TenantId) (f : Database → OriginId → Except DatabaseError Database)
    (ids : List OriginId) (db : Database) : Except StorageError Database := do
  let db ← ids.foldlM
    (fun db id => (f db id).mapError (failure .deleteOriginAssociations (toString id))) db
  (db.removeDangling tenant).mapError (deleting tenant)

def deleteTenantIn (tenant : TenantId) (ids : List OriginId) (db : Database) :
    Except StorageError Database :=
  deleteEach tenant (fun db id => db.clearTenantLevelOf tenant id) ids db

def deleteApplicationIn (tenant : TenantId) (application : ApplicationId) (ids : List OriginId)
    (db : Database) : Except StorageError Database :=
  deleteEach tenant (fun db id => db.dissociate id application) ids db

def store (source : Source) : OriginStore Pool :=
  { priority := 1
    answer := fun request =>
      match request with
      | .byTenant tenant => byTenant tenant
      | .byApplication tenant application => byApplication tenant application
      | .byId id => byId id
      | .byExternalId id => byExternalId id
      | .applications id => applications id
      | .setTenant tenant origins =>
        change (adding tenant) fun db => (setTenantIn source tenant origins db).mapError (adding tenant)
      | .setApplication tenant application origins =>
        change (adding tenant) fun db =>
          (setApplicationIn source tenant application origins db).mapError (adding tenant)
      | .addTenant tenant origins =>
        change (adding tenant) fun db => (addTenantIn source tenant origins db).mapError (adding tenant)
      | .addApplication tenant application origins =>
        change (adding tenant) fun db =>
          (addApplicationIn source tenant application origins db).mapError (adding tenant)
      | .deleteTenant tenant ids => change (deleting tenant) (deleteTenantIn tenant ids)
      | .deleteApplication tenant application ids =>
        change (deleting tenant) (deleteApplicationIn tenant application ids) }

end OriginRegistry.OriginStore.Tables
