import OriginRegistry.Action
import OriginRegistry.Database.Basic
import OriginRegistry.Model.StorageError

set_option autoImplicit false

namespace OriginRegistry

structure Pool where
  database : Database
  isOpen : Bool

namespace Pool

variable {ε α : Type}

def empty : Pool := ⟨.empty, true⟩

def close (p : Pool) : Pool := { p with isOpen := false }

def query (refuse : DatabaseError → ε) (read : Database → Except ε α) : Action Pool ε α :=
  ExceptT.mk fun p => (if p.isOpen then read p.database else .error (refuse .closed), p)

/-- Changes the database as a whole or not at all. -/
def transact (refuse : DatabaseError → ε) (change : Database → Except ε (α × Database)) :
    Action Pool ε α :=
  ExceptT.mk fun p =>
    if p.isOpen then
      match change p.database with
      | .ok (x, db) => (.ok x, { p with database := db })
      | .error e => (.error e, p)
    else (.error (refuse .closed), p)

end Pool

namespace Database

def clear (db : Database) : Table → Database
  | .tenant => { db with tenants := [], applications := [], associations := [] }
  | .application => { db with applications := [], lastApplication := 0, associations := [] }
  | .origin => { db with origins := [], lastOrigin := 0, associations := [] }
  | .association => { db with associations := [] }
  | .resourceType => { db with resourceTypes := [], resources := [], attributes := [] }
  | .resource => { db with resources := [], attributes := [] }
  | .attribute => { db with attributes := [] }
  | .history => db

def protectedName? (name : String) : Option String :=
  if Table.sameName name "sqlite_sequence" then some "sqlite_sequence"
  else if Table.sameName name "sqlite_master" || Table.sameName name "sqlite_schema" then
    some "sqlite_master"
  else none

def drop (db : Database) (name : String) : Except DatabaseError Database :=
  match Table.ofName? name with
  | none =>
    match protectedName? name with
    | some name => .error (.protectedTable name)
    | none => .error (.missingTable name)
  | some t =>
    if db.has t then do
      db.needBelow t 3
      let cleared := db.clear t
      return { cleared with dropped := t :: db.dropped }
    else .error (.missingTable name)

/-- Makes the tables that are missing, if it is not on record that they were made. -/
def migrate (db : Database) : Database :=
  if db.has .history then db else { db with dropped := [] }

end Database

namespace Pool

def drop (name : String) : Action Pool DatabaseError Unit :=
  transact id fun db => (db.drop name).map fun db => ((), db)

def migrationFailure (e : DatabaseError) : StorageError :=
  .other s!"Failed to run migrations: while executing migrations: {e.message}"

def migrate : Action Pool StorageError Unit :=
  transact migrationFailure fun db => .ok ((), db.migrate)

end Pool

end OriginRegistry
