import OriginRegistry.Configuration.Basic
import OriginRegistry.Database.Pool

set_option autoImplicit false

namespace OriginRegistry

namespace Database

def typeNamed? (db : Database) (name : String) : Except DatabaseError (Option ResourceType) := do
  db.need [.resourceType]
  return db.resourceTypes.find? fun t => t.name = name

def insertType (source : Source) (db : Database) (draft : ResourceTypeDraft) :
    Except DatabaseError (ResourceType × Database) := do
  db.need [.resourceType]
  let made : ResourceType := ⟨source.name db.drawn, draft.name, draft.description⟩
  if db.resourceTypes.any fun t => t.id = made.id then throw (.duplicate .resourceTypeId)
  return (made, { db with resourceTypes := db.resourceTypes ++ [made], drawn := db.drawn + 1 })

def resourceNamed? (db : Database) (tenant : TenantId) (typeId name : String) :
    Except DatabaseError (Option ResourceRow) := do
  db.need [.resource]
  return db.resources.find? fun r => r.tenant = tenant && r.typeId = typeId && r.name = name

def attributesOf (db : Database) (resource : String) : Except DatabaseError (List Attribute) := do
  db.need [.attribute]
  return (db.attributes.filter fun a => a.resource = resource).map AttributeRow.entry

def now (source : Source) (db : Database) : Moment × Database :=
  (source.moment db.drawn, { db with drawn := db.drawn + 1 })

def insertResource (source : Source) (db : Database) (tenant : TenantId) (typeId name : String)
    (time : Moment) : Except DatabaseError (String × Database) := do
  db.need [.resource]
  db.needParents .resource
  let id := source.name db.drawn
  if db.resources.any fun r => r.id = id then throw (.duplicate .resourceId)
  return (id, { db with
    resources := db.resources ++ [⟨id, tenant, typeId, name, time, time⟩], drawn := db.drawn + 1 })

def touch (source : Source) (db : Database) (resource : String) : Except DatabaseError Database := do
  db.need [.resource]
  let (time, db) := db.now source
  return { db with
    resources := db.resources.map fun r => if r.id = resource then { r with lastModified := time } else r }

def insertAttribute (db : Database) (resource : String) (entry : Attribute) :
    Except DatabaseError Database := do
  db.need [.attribute]
  db.needParents .attribute
  if db.attributes.any fun a => a.resource = resource && a.entry.key = entry.key then
    throw (.duplicate .attributeKey)
  return { db with attributes := db.attributes ++ [⟨resource, entry⟩] }

def deleteAttributes (db : Database) (resource : String) (p : String → Bool) :
    Except DatabaseError Database := do
  db.need [.attribute]
  db.needParents .attribute
  return { db with attributes := db.attributes.filter fun a => !(a.resource = resource && p a.entry.key) }

end Database

namespace ConfigurationManager.Tables

def run {α : Type} (x : Except DatabaseError α) : Except ConfigurationError α := x.mapError .database

def requireType (db : Database) (name : String) : Except ConfigurationError ResourceType := do
  match ← run (db.typeNamed? name) with
  | some t => .ok t
  | none => .error (.typeMissing name)

def requireResource (db : Database) (tenant : TenantId) (resourceType name : String) :
    Except ConfigurationError ResourceRow := do
  let t ← requireType db resourceType
  match ← run (db.resourceNamed? tenant t.id name) with
  | some r => .ok r
  | none => .error (.resourceMissing resourceType name)

def addTypeIn (source : Source) (draft : ResourceTypeDraft) (db : Database) :
    Except ConfigurationError (ResourceType × Database) := do
  match ← run (db.typeNamed? draft.name) with
  | some _ => .error (.typeExists draft.name)
  | none => run (db.insertType source draft)

def resourceIn (tenant : TenantId) (resourceType name : String) (db : Database) :
    Except ConfigurationError (Option Resource) := do
  let t ← requireType db resourceType
  match ← run (db.resourceNamed? tenant t.id name) with
  | none => .ok none
  | some r =>
    let attributes ← run (db.attributesOf r.id)
    .ok (some ⟨r.id, r.name, resourceType, attributes, r.createdAt, r.lastModified⟩)

def freshResource (source : Source) (tenant : TenantId) (typeId name : String) (time : Moment)
    (db : Database) : Except DatabaseError (String × Moment × Database) := do
  match ← db.resourceNamed? tenant typeId name with
  | some r =>
    let db ← db.deleteAttributes r.id fun _ => true
    return (r.id, r.createdAt, ← db.touch source r.id)
  | none =>
    let (id, db) ← db.insertResource source tenant typeId name time
    return (id, time, db)

def replaceIn (source : Source) (tenant : TenantId) (resourceType : String) (draft : ResourceDraft)
    (db : Database) : Except ConfigurationError (Resource × Database) := do
  let t ← requireType db resourceType
  let (time, db) := db.now source
  let (id, createdAt, db) ← run (freshResource source tenant t.id draft.name time db)
  let db ← run (draft.attributes.foldlM (fun db entry => db.insertAttribute id entry) db)
  return (⟨id, draft.name, resourceType, draft.attributes, createdAt, time⟩, db)

def addAttributeIn (source : Source) (tenant : TenantId) (resourceType name : String) (entry : Attribute)
    (db : Database) : Except ConfigurationError (Attribute × Database) := do
  let r ← requireResource db tenant resourceType name
  let present ← run (db.attributesOf r.id)
  if present.any fun a => a.key = entry.key then throw (.attributeExists name entry.key)
  let db ← run (db.insertAttribute r.id entry)
  return (entry, ← run (db.touch source r.id))

def deleteAttributeIn (source : Source) (tenant : TenantId) (resourceType name key : String)
    (db : Database) : Except ConfigurationError (Unit × Database) := do
  let r ← requireResource db tenant resourceType name
  let after ← run (db.deleteAttributes r.id fun k => k = key)
  if after.attributes.length = db.attributes.length then throw (.attributeMissing name key)
  return ((), ← run (after.touch source r.id))

def manager (source : Source) : ConfigurationManager Pool :=
  { answer := fun request =>
      match request with
      | .type name => Pool.query .database fun db => requireType db name
      | .addType draft => Pool.transact .database (addTypeIn source draft)
      | .resource tenant resourceType name =>
        Pool.query .database (resourceIn tenant resourceType name)
      | .replace tenant resourceType draft =>
        Pool.transact .database (replaceIn source tenant resourceType draft)
      | .addAttribute tenant resourceType name entry =>
        Pool.transact .database (addAttributeIn source tenant resourceType name entry)
      | .deleteAttribute tenant resourceType name key =>
        Pool.transact .database (deleteAttributeIn source tenant resourceType name key) }

end ConfigurationManager.Tables

end OriginRegistry
