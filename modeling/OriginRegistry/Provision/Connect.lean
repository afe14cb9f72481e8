import OriginRegistry.Database.Pool
import OriginRegistry.Log.Filter
import OriginRegistry.Provision.DatabaseUrl
import OriginRegistry.Provision.Files

set_option autoImplicit false

namespace OriginRegistry

structure Surroundings where
  files : Files
  records : List Log.Record
  deriving Repr

namespace Provision

def record {ε : Type} (target message : String) : Action Surroundings ε Unit :=
  Action.note fun s => { s with records := s.records ++ [⟨target, message⟩] }

inductive ConnectionFault
  | url (e : DatabaseUrl.Fault)
  | nullInName
  | database (e : DatabaseError)
  deriving DecidableEq, Repr

def ConnectionFault.message : ConnectionFault → String
  | .url e => s!"error with configuration: {e.message}"
  | .nullInName => "error communicating with database: filename passed to SQLite must not contain nul bytes"
  | .database e => e.message

def beforeNull (s : String) : String := String.ofList (s.toList.takeWhile (· ≠ '\x00'))

/-- A name behind `file:` is percent-encoded. A host that is no other than this one may stand before it, and
    a mark ends it. -/
def nameOfFileUrl (cs : List Char) : Except DatabaseError String :=
  let (host, path) :=
    match cs with
    | '/' :: '/' :: cs => (cs.takeWhile (· ≠ '/'), cs.dropWhile (· ≠ '/'))
    | cs => ([], cs)
  if host = [] ∨ host = "localhost".toList then
    .ok (beforeNull (String.ofList
      (Text.percentDecodeLossy (path.takeWhile fun c => c ≠ '#' && c ≠ '?'))))
  else .error (.unknownAuthority (String.ofList host))

def fileName (u : DatabaseUrl) : Except ConnectionFault String :=
  if u.immutable || u.fileSystem.isSome then .ok (beforeNull u.name)
  else if u.name.toList.contains '\x00' then .error .nullInName
  else
    match u.name.toList with
    | 'f' :: 'i' :: 'l' :: 'e' :: ':' :: cs => (nameOfFileUrl cs).mapError .database
    | _ => .ok u.name

def fileSystems : List String := ["unix", "unix-none", "unix-dotfile", "unix-excl"]

def memoryOnly (u : DatabaseUrl) : Except DatabaseError Bool :=
  match u.fileSystem with
  | none => .ok false
  | some name =>
    let name := beforeNull (name.map fun c => if c = ' ' then '+' else c)
    if name = "memdb" then .ok true
    else if fileSystems.contains name then .ok false
    else .error (.unknownFileSystem name)

inductive Place
  | memory
  | file (name : String)
  deriving DecidableEq, Repr

def place (u : DatabaseUrl) : Except ConnectionFault Place := do
  let name ← fileName u
  let inMemory ← (memoryOnly u).mapError .database
  return if inMemory || u.inMemory || name = "" || name = ":memory:" then .memory else .file name

/-- An open database; `path` is `none` when it goes with the connection. -/
structure Opened where
  path : Option (List String)
  writable : Bool
  content : Database
  deriving Repr

def bare : Database := { dropped := Table.all }

/-- Opens a file. One that is missing is made when the URL allows it, but not for reading alone. A folder
    other than the root can be opened for reading alone, but there is nothing in it to read. -/
def openFile (u : DatabaseUrl) (files : Files) (path : List String) :
    Except DatabaseError (Opened × Files) :=
  let writable := !u.readOnly && !u.immutable
  if files.isFolder path then
    .error (if u.readOnly && !path.isEmpty then .unreadable else .cannotOpen)
  else if files.isFolder path.dropLast then
    match files.find? path with
    | some content => .ok (⟨some path, writable, content⟩, files)
    | none =>
      if u.create && !u.readOnly then .ok (⟨some path, writable, bare⟩, files.save path bare)
      else .error .cannotOpen
  else .error .cannotOpen

def openDatabase (url : String) (files : Files) : Except ConnectionFault (Opened × Files) := do
  let u ← (DatabaseUrl.parse url).mapError .url
  match ← place u with
  | .memory => return (⟨none, !u.readOnly, bare⟩, files)
  | .file name => (openFile u files (Files.resolve files.current name)).mapError .database

def prepare (o : Opened) (files : Files) : Except DatabaseError (Pool × Files) :=
  if o.content.has .history then .ok (⟨o.content, true⟩, files)
  else if o.writable then
    let content := o.content.migrate
    .ok (⟨content, true⟩,
      match o.path with
      | some path => files.save path content
      | none => files)
  else .error .readOnly

def storage : String := "cors_management::api::storage"

def connect (url : String) : Action Surroundings StorageError Pool := do
  match openDatabase url (← get).files with
  | .error fault => throw (.connection fault.message)
  | .ok (opened, files) =>
    Action.note fun s => { s with files := files }
    record storage s!"Connected to database {url}"
    match prepare opened files with
    | .error e => throw (Pool.migrationFailure e)
    | .ok (pool, files) =>
      Action.note fun s => { s with files := files }
      record storage "Database migrations completed"
      return pool

end Provision

end OriginRegistry
